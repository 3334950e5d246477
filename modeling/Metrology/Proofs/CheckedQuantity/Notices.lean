import Metrology.Proofs.CheckedQuantity.Outcome
import Metrology.Proofs.Identity.Formal
import Metrology.Proofs.Ratio.Exactness

/-!
# Notices of refusals

Which refusals of the operations on checked quantities are recorded. A request ends in one of three
ways: it is accepted and records nothing, it is refused and records one notice that tells of the
refusal, or it is refused in silence. Main statement: silence is left to requests that do not fit,
that is to dimensions with the wrong number of exponents and to scales or composed identities that
words cannot hold; all others record exactly what they refuse.

`Ends` is the specification that every operation meets. It is kept by whatever is done to the answer
afterwards, so each request has one line in `Request.ends`.
-/

namespace Metrology

/-! ## Telling of a refusal -/

/-- Whether a notice tells of a refusal: of its kind and of the two sides that it is about. -/
inductive Notice.Tells : Notice → Refusal → Prop where
  | zeroScale (num den : Int64) : Tells (.zeroScale num den) (.zeroScale num den)
  | unlikeUnits (operation : Comparison) (left right : Identity) :
      Tells (.unlikeUnits operation left right) (.unitMismatch left right)
  | unlikeDimensions (source target : Dimension) :
      Tells (.unlikeDimensions source target) (.dimensionMismatch source target)
  | unlikeView (found expected : Identity) :
      Tells (.unlikeView found expected) (.unitMismatch found expected)

/-- The causes of refusal that no notice tells of. -/
inductive Refusal.Silent : Refusal → Prop where
  | shapeMismatch (found : Nat) : Silent (.shapeMismatch 7 found)
  | overflow : Silent .overflow

/-- Whether a refusal has left exactly one notice, or an acceptance none. -/
def Attempt.RecordedOnce {ε α : Type} (x : Attempt ε α) : Prop :=
  match x.result with
  | .ok _ => x.notices = []
  | .error _ => x.notices.length = 1

namespace CheckedQuantity

/-! ## How operations end -/

/-- The three ways in which a checked operation ends, the silent one only where something does not
fit. -/
inductive Ends {α : Type} (fits : Prop) : Checked α → Prop where
  | accepted (a : α) (fit : fits) : Ends fits (.accept a)
  | recorded {notice : Notice} {r : Refusal} (fit : fits) (tells : notice.Tells r) :
      Ends fits (.reject notice r)
  | silent {r : Refusal} (unfit : ¬fits) (silence : r.Silent) : Ends fits (.refuse r)

namespace Ends

variable {α β : Type} {fits : Prop} {x : Checked α}

/-- What becomes of an accepted answer does not matter. -/
lemma map (f : α → β) (ends : Ends fits x) : Ends fits (x.map f) := by
  cases ends with
  | accepted a fit => exact .accepted (f a) fit
  | recorded fit tells => exact .recorded fit tells
  | silent unfit silence => exact .silent unfit silence

lemma recordedOnce_iff (ends : Ends fits x) : x.RecordedOnce ↔ fits := by
  cases ends with
  | accepted a fit => exact iff_of_true rfl fit
  | recorded fit tells => exact iff_of_true rfl fit
  | silent unfit silence => exact iff_of_false Nat.zero_ne_one unfit

/-- A refusal is told of by the one notice, or there is none and it is one of the silent causes. -/
lemma told_or_silent (ends : Ends fits x) {r : Refusal} (refused : x.result = .error r) :
    (∃ notice, x.notices = [notice] ∧ notice.Tells r) ∨ (x.notices = [] ∧ r.Silent) := by
  cases ends with
  | accepted a fit => cases refused
  | recorded fit tells =>
    cases refused
    exact .inl ⟨_, rfl, tells⟩
  | silent unfit silence =>
    cases refused
    exact .inr ⟨rfl, silence⟩

end Ends

variable {a b : CheckedQuantity}

/-- Asking for one unit never ends in silence. -/
lemma requireSame_ends (operation : Comparison) : Ends True (requireSame operation a b) := by
  unfold requireSame
  split
  · exact .accepted PUnit.unit trivial
  · exact .recorded trivial (.unlikeUnits operation a.identity b.identity)

lemma convert_ends (target : Identity) : Ends True (a.convert target) := by
  unfold convert
  split
  · exact .accepted _ trivial
  · exact .recorded trivial (.unlikeDimensions a.identity.dimension target.dimension)

lemma view_ends (u : UnitExpr) (hu : u.Evaluates) : Ends True (a.view u hu) := by
  unfold view
  split
  · exact .accepted _ trivial
  · exact .recorded trivial (.unlikeView a.identity (u.identity hu))

/-- A composition ends in silence where there is no composed identity. -/
lemma compose_ends {x : Float} {i? : Option Identity} {fits : Prop} (composed : i?.isSome ↔ fits) :
    Ends fits (compose x i?) := by
  cases i? with
  | none =>
    have unfit : ¬fits := fun fit => Bool.false_ne_true (composed.2 fit)
    exact .silent unfit .overflow
  | some i => exact .accepted _ (composed.1 rfl)

/-- Loose parts end in silence where there are not seven exponents, or where the scale is not zero
and does not fit. -/
lemma ofParts_ends {x : Float} {num den : Int64} {e : Exponent} {es : List Exponent} :
    Ends (es.length = 7 ∧ (num ≠ 0 → den ≠ 0 → Ratio.Representable (num.toInt / den.toInt)))
      (ofParts x num den e es) := by
  by_cases seven : es.length = 7
  · by_cases zero : num = 0 ∨ den = 0
    · rw [ofParts_of_zero seven zero]
      refine .recorded ⟨seven, ?_⟩ (.zeroScale num den)
      intro num_ne den_ne
      exact absurd zero (not_or.2 ⟨num_ne, den_ne⟩)
    · obtain ⟨table, shape⟩ := Option.isSome_iff_exists.1 (PerBase.ofList?_isSome_iff.2 seven)
      obtain ⟨num_ne, den_ne⟩ := not_or.1 zero
      rw [ofParts_of_nonzero shape zero]
      apply compose_ends
      rw [Option.isSome_map, (Ratio.ofWords?_answersExactly num den).isSome_iff]
      simp only [seven, num_ne, den_ne, ne_eq, not_false_eq_true, forall_const, true_and]
  · rw [ofParts_of_shape seven]
    exact .silent (fun fit => seven fit.1) (.shapeMismatch es.length)

/-! ## Requests -/

/-- A request to one of the operations that can be refused, with its arguments. -/
inductive Request where
  | ofParts (magnitude : Float) (num den : Int64) (exponent : Exponent) (exponents : List Exponent)
  | add (a b : CheckedQuantity)
  | sub (a b : CheckedQuantity)
  | addTo (accumulator operand : CheckedQuantity)
  | subFrom (accumulator operand : CheckedQuantity)
  | compare (a b : CheckedQuantity)
  | mul (a b : CheckedQuantity)
  | div (a b : CheckedQuantity)
  | pow (a : CheckedQuantity) (n : Exponent)
  | convert (a : CheckedQuantity) (target : Identity)
  | toNumber (a : CheckedQuantity)
  | view (a : CheckedQuantity) (u : UnitExpr) (hu : u.Evaluates)

namespace Request

/-- How a request ends, whatever value it is answered with. -/
def outcome : Request → Checked PUnit
  | ofParts x num den e es => (CheckedQuantity.ofParts x num den e es).map fun _ => ⟨⟩
  | add a b => (a.add b).map fun _ => ⟨⟩
  | sub a b => (a.sub b).map fun _ => ⟨⟩
  | addTo a b => (a.addTo b).2
  | subFrom a b => (a.subFrom b).2
  | compare a b => (a.compare b).map fun _ => ⟨⟩
  | mul a b => (a.mul b).map fun _ => ⟨⟩
  | div a b => (a.div b).map fun _ => ⟨⟩
  | pow a n => (a.pow n).map fun _ => ⟨⟩
  | convert a target => (a.convert target).map fun _ => ⟨⟩
  | toNumber a => a.toNumber.map fun _ => ⟨⟩
  | view a u hu => (a.view u hu).map fun _ => ⟨⟩

/-- Whether words hold all that a request asks to put together: seven exponents and a scale that fits
unless it is zero, or the exact triple of a composition. -/
def Fits : Request → Prop
  | ofParts _ num den _ es =>
    es.length = 7 ∧ (num ≠ 0 → den ≠ 0 → Ratio.Representable (num.toInt / den.toInt))
  | mul a b => (a.identity.formal * b.identity.formal).Fits
  | div a b => b.identity.ratio.value ≠ 0 ∧ (a.identity.formal / b.identity.formal).Fits
  | pow a n =>
    (n.toInt < 0 → a.identity.ratio.value ≠ 0) ∧ (a.identity.formal ^ n.toInt).Fits
  | add _ _ | sub _ _ | addTo _ _ | subFrom _ _ | compare _ _ | convert _ _ | toNumber _
  | view _ _ _ => True

/-- Every request ends in one of the three ways. -/
lemma ends (request : Request) : Ends request.Fits request.outcome := by
  cases request with
  | ofParts x num den e es => exact ofParts_ends.map _
  | add a b => exact ((requireSame_ends .addition).map _).map _
  | sub a b => exact ((requireSame_ends .subtraction).map _).map _
  | addTo a b =>
    rw [outcome, CheckedQuantity.addTo, update_snd]
    exact ((requireSame_ends .addition).map _).map _
  | subFrom a b =>
    rw [outcome, CheckedQuantity.subFrom, update_snd]
    exact ((requireSame_ends .subtraction).map _).map _
  | compare a b => exact ((requireSame_ends .comparison).map _).map _
  | mul a b => exact (compose_ends Identity.isSome_mul?_iff).map _
  | div a b => exact (compose_ends Identity.isSome_div?_iff).map _
  | pow a n => exact (compose_ends Identity.isSome_pow?_iff).map _
  | convert a target => exact (convert_ends target).map _
  | toNumber a => exact ((convert_ends .scalar).map _).map _
  | view a u hu => exact (view_ends u hu).map _

/-- A request records exactly one notice if it is refused and none if it is accepted, exactly where
all that it puts together fits. A refusal is then told of by its notice; the refusals in silence have
one of two causes. -/
theorem recordedOnce_iff_fits (request : Request) :
    (request.outcome.RecordedOnce ↔ request.Fits) ∧
    ∀ r, request.outcome.result = .error r →
      (∃ notice, request.outcome.notices = [notice] ∧ notice.Tells r) ∨
      (request.outcome.notices = [] ∧ r.Silent) :=
  ⟨request.ends.recordedOnce_iff, fun _ refused => request.ends.told_or_silent refused⟩

/-- Four exponents are refused without a notice, and so is an area whose scale is the square of the
greatest word. -/
theorem not_recordedOnce_unfit :
    let metres : CheckedQuantity :=
      ⟨1, ⟨9223372036854775807, 1, by decide, by decide, by decide, by decide⟩, .zero, .of .length⟩
    let exponents : List Exponent := [⟨2, by decide⟩, .zero, ⟨3, by decide⟩, ⟨4, by decide⟩]
    ¬(ofParts 1 1 1 .zero exponents).outcome.RecordedOnce ∧
      ¬(mul metres metres).outcome.RecordedOnce := by
  intro metres exponents
  have shape : (ofParts 1 1 1 .zero exponents).outcome = .refuse (.shapeMismatch 7 4) := rfl
  have overflow : (mul metres metres).outcome = .refuse .overflow := by
    have beyond : metres.identity.mul? metres.identity = none := by decide
    rw [outcome, CheckedQuantity.mul, beyond]
    rfl
  rw [shape, overflow]
  exact ⟨Nat.zero_ne_one, Nat.zero_ne_one⟩

end Request

end CheckedQuantity

end Metrology
