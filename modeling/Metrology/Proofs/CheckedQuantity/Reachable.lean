import Metrology.Proofs.CheckedQuantity.Outcome
import Metrology.Proofs.Unit.Evaluation

/-!
# Reachable quantities

Which checked quantities a program can meet: it builds them from loose parts or takes them over from
a known unit whose scale is not zero, and then works on them with any number of operations, whose
operands it has reached in the same way. Main statement: the scale of a reachable quantity is never
zero, and so its products, quotients and powers are refused exactly where the exact result does not
fit.

The invariant is that the ratio is not zero. One step keeps it (`advance_nonzero`), hence every run
does (`Reachable.nonzero`). It is what makes a refusal mean that something does not fit: of all
compositions, only division by a zero scale has no exact result.
-/

namespace Metrology.CheckedQuantity

/-! ## Runs -/

/-- One operation on a running quantity, with its operand. -/
inductive Operation where
  | add (operand : CheckedQuantity)
  | sub (operand : CheckedQuantity)
  | mul (operand : CheckedQuantity)
  | div (operand : CheckedQuantity)
  | pow (n : Exponent)
  | neg
  | scale (k : Float)
  | unscale (k : Float)
  | addTo (operand : CheckedQuantity)
  | subFrom (operand : CheckedQuantity)
  | convert (target : Identity)

/-- The quantity that an operation takes as an operand. -/
def Operation.operand? : Operation → Option CheckedQuantity
  | add b | sub b | mul b | div b | addTo b | subFrom b => some b
  | pow _ | neg | scale _ | unscale _ | convert _ => none

/-- The unit that an operation converts to. -/
def Operation.target? : Operation → Option Identity
  | convert target => some target
  | add _ | sub _ | mul _ | div _ | pow _ | neg | scale _ | unscale _ | addTo _ | subFrom _ => none

/-- The running quantity after an operation; it is what it was if the operation is refused. -/
def advance (q : CheckedQuantity) : Operation → CheckedQuantity
  | .add b => (q.update (q.add b)).1
  | .sub b => (q.update (q.sub b)).1
  | .mul b => (q.update (q.mul b)).1
  | .div b => (q.update (q.div b)).1
  | .pow n => (q.update (q.pow n)).1
  | .neg => q.neg
  | .scale k => q.scale k
  | .unscale k => q.unscale k
  | .addTo b => (q.addTo b).1
  | .subFrom b => (q.subFrom b).1
  | .convert target => (q.update (q.convert target)).1

/-- The quantities that a program can meet. -/
inductive Reachable : CheckedQuantity → Prop where
  | ofParts {x : Float} {num den : Int64} {e : Exponent} {es : List Exponent} {q : CheckedQuantity}
      (accepted : (CheckedQuantity.ofParts x num den e es).result = .ok q) : Reachable q
  | ofQuantity {u : UnitExpr} (q : Quantity u) (hu : u.Evaluates)
      (nonzero : (u.identity hu).ratio.isZero = false) : Reachable (.ofQuantity q hu)
  | step {q : CheckedQuantity} (op : Operation) (reached : Reachable q)
      (operand : ∀ b ∈ op.operand?, Reachable b)
      (target : ∀ t ∈ op.target?, t.ratio.isZero = false) : Reachable (q.advance op)

/-! ## The invariant -/

/-- Whether the scale of a quantity is not zero. -/
def Nonzero (q : CheckedQuantity) : Prop :=
  q.identity.ratio.value ≠ 0

/-- What holds of an accumulator and of every accepted outcome holds after an update. -/
lemma update_induction {P : CheckedQuantity → Prop} {a : CheckedQuantity}
    {outcome : Checked CheckedQuantity} (before : P a)
    (after : ∀ {c}, outcome.result = .ok c → P c) : P (a.update outcome).1 := by
  cases result : outcome.result with
  | ok c =>
    rw [update_of_ok result]
    exact after result
  | error r =>
    rw [update_of_error result]
    exact before

/-- Parts are accepted only if the scale is not zero. -/
lemma ofParts_nonzero {x : Float} {num den : Int64} {e : Exponent} {es : List Exponent}
    {q : CheckedQuantity} (accepted : (ofParts x num den e es).result = .ok q) : q.Nonzero := by
  by_cases seven : es.length = 7
  · by_cases zero : num = 0 ∨ den = 0
    · rw [ofParts_of_zero seven zero] at accepted
      cases accepted
    · obtain ⟨table, shape⟩ := Option.isSome_iff_exists.1 (PerBase.ofList?_isSome_iff.2 seven)
      rw [ofParts_of_nonzero shape zero] at accepted
      obtain ⟨ratio, reduced, same⟩ := Option.map_eq_some_iff.1 (compose_eq_ok accepted)
      obtain ⟨den_ne, value⟩ := Ratio.ofWords?_eq_some_iff.1 reduced
      have num_ne : num.toInt ≠ 0 := fun num_eq => zero (.inl (Int64.toInt_inj.1 num_eq))
      have den_ne : den.toInt ≠ 0 := fun den_eq => den_ne (Int64.toInt_inj.1 den_eq)
      rw [Nonzero, ← same]
      show ratio.value ≠ 0
      rw [value]
      exact div_ne_zero (Int.cast_ne_zero.2 num_ne) (Int.cast_ne_zero.2 den_ne)
  · rw [ofParts_of_shape seven] at accepted
    cases accepted

/-- An outcome in the accumulator's own unit does not change its scale. -/
lemma update_nonzero {q : CheckedQuantity} {outcome : Checked CheckedQuantity} (before : q.Nonzero)
    (same : ∀ {c}, outcome.result = .ok c → c.identity = q.identity) :
    (q.update outcome).1.Nonzero := by
  apply update_induction before
  intro c accepted
  rw [Nonzero, same accepted]
  exact before

/-- One operation keeps the scale from becoming zero. -/
lemma advance_nonzero {q : CheckedQuantity} {op : Operation} (before : q.Nonzero)
    (operand : ∀ b ∈ op.operand?, b.Nonzero) (target : ∀ t ∈ op.target?, t.ratio.value ≠ 0) :
    (q.advance op).Nonzero := by
  cases op with
  | add b => exact update_nonzero before identity_add
  | sub b => exact update_nonzero before identity_sub
  | mul b =>
    apply update_induction before
    intro c accepted
    have exact := Identity.mul?_eq_some_iff.1 (compose_eq_ok accepted)
    rw [Nonzero, (Identity.formal_eq_iff.1 exact).1]
    exact mul_ne_zero before (operand b rfl)
  | div b =>
    apply update_induction before
    intro c accepted
    obtain ⟨regular, exact⟩ := Identity.div?_eq_some_iff.1 (compose_eq_ok accepted)
    rw [Nonzero, (Identity.formal_eq_iff.1 exact).1]
    exact div_ne_zero before regular
  | pow n =>
    apply update_induction before
    intro c accepted
    obtain ⟨_, exact⟩ := Identity.pow?_eq_some_iff.1 (compose_eq_ok accepted)
    rw [Nonzero, (Identity.formal_eq_iff.1 exact).1]
    exact zpow_ne_zero n.toInt before
  | neg => exact before
  | scale k => exact before
  | unscale k => exact before
  | addTo b => exact update_nonzero before identity_add
  | subFrom b => exact update_nonzero before identity_sub
  | convert t =>
    apply update_induction before
    intro c accepted
    rw [Nonzero, identity_convert accepted]
    exact target t rfl

/-- No run reaches a zero scale. -/
lemma Reachable.nonzero {q : CheckedQuantity} (reachable : Reachable q) : q.Nonzero := by
  induction reachable with
  | ofParts accepted => exact ofParts_nonzero accepted
  | ofQuantity q hu nonzero => exact Ratio.value_ne_zero_iff.2 nonzero
  | step op reached operand target before operands =>
    exact advance_nonzero before operands fun t ht => Ratio.value_ne_zero_iff.2 (target t ht)

/-! ## Refusals -/

/-- An outcome carries an exact triple, or is refused because that triple does not fit. -/
structure ComposesTo (outcome : Checked CheckedQuantity) (exact : FormalIdentity) : Prop where
  refused_iff : outcome.result = .error .overflow ↔ ¬exact.Fits
  cause : ∀ {r}, outcome.result = .error r → r = .overflow
  carries : ∀ {c}, outcome.result = .ok c → c.identity.formal = exact

lemma compose_composesTo {x : Float} {i? : Option Identity} {exact : FormalIdentity}
    (composed : ∀ {i}, i? = some i ↔ i.formal = exact) : ComposesTo (compose x i?) exact where
  refused_iff := by
    rw [compose_eq_error_iff, ← Identity.exists_formal_eq_iff, Option.eq_none_iff_forall_ne_some]
    simp only [ne_eq, composed, and_true, not_exists]
  cause refused := (compose_eq_error_iff.1 refused).2
  carries accepted := composed.1 (compose_eq_ok accepted)

/-- Every reachable quantity has a ratio in lowest terms that is not zero and whose denominator fits a
signed word. Its products and quotients with reachable quantities and its powers carry the exact
composed triple, and they are refused exactly where that triple does not fit. -/
theorem Reachable.composes {q : CheckedQuantity} (reachable : Reachable q) :
    (q.identity.ratio.num ≠ 0 ∧
      q.identity.ratio.num.natAbs.Coprime q.identity.ratio.den ∧
      1 ≤ q.identity.ratio.den ∧ q.identity.ratio.den ≤ 9223372036854775807) ∧
    (∀ b, Reachable b →
      ComposesTo (q.mul b) (q.identity.formal * b.identity.formal) ∧
      ComposesTo (q.div b) (q.identity.formal / b.identity.formal)) ∧
    ∀ n : Exponent, ComposesTo (q.pow n) (q.identity.formal ^ n.toInt) := by
  have nonzero : q.identity.ratio.value ≠ 0 := reachable.nonzero
  refine ⟨⟨?_, q.identity.ratio.reduced, q.identity.ratio.den_pos, ?_⟩, ?_, ?_⟩
  · exact mt Ratio.value_eq_zero_iff.2 nonzero
  · exact Nat.le_of_lt_succ q.identity.ratio.den_lt
  · intro b operand
    refine ⟨compose_composesTo Identity.mul?_eq_some_iff, compose_composesTo ?_⟩
    intro i
    have regular : b.identity.ratio.value ≠ 0 := operand.nonzero
    rw [Identity.div?_eq_some_iff, and_iff_right regular]
  · intro n
    apply compose_composesTo
    intro i
    have regular : n.toInt < 0 → q.identity.ratio.value ≠ 0 := fun _ => nonzero
    rw [Identity.pow?_eq_some_iff, and_iff_right regular]

/-- The least scale that fits a word has no reciprocal that fits, also after a sign has changed. -/
theorem composes_least :
    ∃ q, (ofParts 1 (-9223372036854775808) 1 .zero (List.replicate 7 .zero)).result = .ok q ∧
      Reachable (q.advance .neg) ∧
      ((q.advance .neg).pow ⟨-1, by decide⟩).result = .error .overflow := by
  obtain ⟨q, parts, least⟩ :
      ∃ q, (ofParts 1 (-9223372036854775808) 1 .zero (List.replicate 7 .zero)).result = .ok q ∧
        q.identity.ratio.value = -9223372036854775808 := ⟨_, rfl, rfl⟩
  have reachable : Reachable (q.advance .neg) := by
    apply Reachable.step .neg (.ofParts parts)
    · intro b operand
      exact absurd operand (Option.not_mem_none b)
    · intro t target
      exact absurd target (Option.not_mem_none t)
  refine ⟨q, parts, reachable, (reachable.composes.2.2 ⟨-1, by decide⟩).refused_iff.2 ?_⟩
  intro fits
  have den : (q.identity.ratio.value ^ (-1 : Int)).den < 9223372036854775808 := fits.ratio.2
  rw [least, zpow_neg_one, Rat.den_inv] at den
  exact absurd den (by decide)

end Metrology.CheckedQuantity
