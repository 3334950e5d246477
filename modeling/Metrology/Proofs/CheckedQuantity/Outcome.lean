import Metrology.CheckedQuantity

/-!
# Outcomes of checked operations

What each operation on checked quantities answers when it accepts, and what an accepted answer says
about the identities that went in. Sums keep the identity of the left operand, compositions carry the
composed identity, conversions carry the target.
-/

namespace Metrology

namespace Attempt

variable {ε α β : Type}

@[simp] theorem accept_andThen (a : α) (f : α → Attempt ε β) : (accept a).andThen f = f a := rfl

end Attempt

namespace CheckedQuantity

variable {a b c : CheckedQuantity}

/-! ## Accepted operands -/

theorem add_of_same (same : a.identity = b.identity) :
    a.add b = .accept ⟨a.magnitude + b.magnitude, a.identity⟩ := by
  rw [add, requireSame, if_pos same]
  rfl

theorem sub_of_same (same : a.identity = b.identity) :
    a.sub b = .accept ⟨a.magnitude - b.magnitude, a.identity⟩ := by
  rw [sub, requireSame, if_pos same]
  rfl

theorem compare_of_same (same : a.identity = b.identity) :
    a.compare b = .accept (Magnitude.compare? a.magnitude b.magnitude) := by
  rw [compare, requireSame, if_pos same]
  rfl

/-- Products, quotients and powers are accepted where there is a composed identity. -/
theorem compose_of_some {x : Float} {i? : Option Identity} {i : Identity} (composed : i? = some i) :
    compose x i? = .accept ⟨x, i⟩ := by
  rw [composed]
  rfl

theorem convert_of_same {target : Identity} (same : a.identity.dimension = target.dimension) :
    a.convert target = .accept ⟨a.magnitude * a.identity.factorTo target, target⟩ :=
  if_pos same

theorem view_of_same {u : UnitExpr} (hu : u.Evaluates) (same : a.identity = u.identity hu) :
    a.view u hu = .accept ⟨a.magnitude⟩ :=
  if_pos same

/-! ## Loose parts -/

variable {x : Float} {num den : Int64} {e : Exponent} {es : List Exponent}

/-- The number of exponents is looked at first. -/
theorem ofParts_of_shape (wrong : es.length ≠ 7) :
    ofParts x num den e es = .refuse (.shapeMismatch 7 es.length) := by
  have shape : PerBase.ofList? es = none := by
    rw [← Option.not_isSome_iff_eq_none, PerBase.ofList?_isSome_iff]
    exact wrong
  rw [ofParts, Dimension.ofExponents, shape]
  rfl

/-- A zero scale is refused, and recorded, before it is brought to lowest terms. -/
theorem ofParts_of_zero (seven : es.length = 7) (zero : num = 0 ∨ den = 0) :
    ofParts x num den e es = .reject (.zeroScale num den) (.zeroScale num den) := by
  obtain ⟨table, shape⟩ := Option.isSome_iff_exists.1 (PerBase.ofList?_isSome_iff.2 seven)
  rw [ofParts, Dimension.ofExponents, shape]
  show (if num = 0 ∨ den = 0 then _ else _) = _
  rw [if_pos zero]

/-- Seven exponents and a scale that is not zero make up an identity if the scale fits. -/
theorem ofParts_of_nonzero {table : PerBase Exponent} (shape : PerBase.ofList? es = some table)
    (nonzero : ¬(num = 0 ∨ den = 0)) :
    ofParts x num den e es =
      compose x ((Ratio.ofWords? num den).map fun ratio => ⟨ratio, e, ⟨table⟩⟩) := by
  rw [ofParts, Dimension.ofExponents, shape]
  show (if num = 0 ∨ den = 0 then _ else _) = _
  rw [if_neg nonzero]
  cases Ratio.ofWords? num den with
  | none => rfl
  | some ratio => rfl

/-! ## What an answer says -/

/-- An operation that asks for one unit accepts only where both identities are the same. -/
theorem requireSame_map_eq_ok {α : Type} {operation : Comparison} {f : PUnit → α} {x : α}
    (accepted : ((requireSame operation a b).map f).result = .ok x) :
    a.identity = b.identity ∧ x = f ⟨⟩ := by
  unfold requireSame at accepted
  split at accepted
  · rename_i same
    cases accepted
    exact ⟨same, rfl⟩
  · cases accepted

/-- A sum keeps the identity of the left operand. -/
theorem identity_add (accepted : (a.add b).result = .ok c) : c.identity = a.identity := by
  obtain ⟨_, rfl⟩ := requireSame_map_eq_ok accepted
  rfl

/-- A difference keeps the identity of the left operand. -/
theorem identity_sub (accepted : (a.sub b).result = .ok c) : c.identity = a.identity := by
  obtain ⟨_, rfl⟩ := requireSame_map_eq_ok accepted
  rfl

/-- A composition carries the composed identity. -/
theorem compose_eq_ok {x : Float} {i? : Option Identity} (accepted : (compose x i?).result = .ok c) :
    i? = some c.identity := by
  cases i? with
  | none => cases accepted
  | some i =>
    cases accepted
    rfl

/-- A composition is refused exactly if there is no composed identity, and for no other cause. -/
theorem compose_eq_error_iff {x : Float} {i? : Option Identity} {r : Refusal} :
    (compose x i?).result = .error r ↔ i? = none ∧ r = .overflow := by
  cases i? with
  | none =>
    simp only [compose, Attempt.refuse, Except.error.injEq, true_and]
    exact eq_comm
  | some i => simp [compose, Attempt.accept]

/-- A conversion carries the target. -/
theorem identity_convert {target : Identity} (accepted : (a.convert target).result = .ok c) :
    c.identity = target := by
  unfold convert at accepted
  split at accepted
  · cases accepted
    rfl
  · cases accepted

/-- An update answers as the operation does. -/
theorem update_snd (accumulator : CheckedQuantity) (outcome : Checked CheckedQuantity) :
    (accumulator.update outcome).2 = outcome.map fun _ => ⟨⟩ := by
  unfold update
  split
  · rfl
  · rfl

/-- An accumulator is the accepted outcome or what it was. -/
theorem update_of_ok {outcome : Checked CheckedQuantity} (accepted : outcome.result = .ok c) :
    (a.update outcome).1 = c := by
  rw [update, accepted]

theorem update_of_error {outcome : Checked CheckedQuantity} {r : Refusal}
    (refused : outcome.result = .error r) : (a.update outcome).1 = a := by
  rw [update, refused]

end CheckedQuantity

end Metrology
