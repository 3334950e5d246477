import Metrology.Proofs.CheckedQuantity.Notices
import Metrology.Proofs.Identity.Text

/-!
# Mismatches

What the message of a mismatch shows. Whatever is requested, two units or two dimensions are refused
only if they are different (`Request.refusesApart`), and different identities and dimensions have
different texts. Main statement: the two texts in the message of a mismatch are never the same.
-/

namespace Metrology

/-- Whether the two sides that a refusal is about, if there are two, are different. -/
def Refusal.Apart : Refusal → Prop
  | unitMismatch left right => left ≠ right
  | dimensionMismatch source target => source ≠ target
  | shapeMismatch _ _ | overflow | zeroScale _ _ => True

namespace CheckedQuantity

/-- Whether a checked operation is not refused for two sides that are the same. -/
def RefusesApart {α : Type} (x : Checked α) : Prop :=
  ∀ r, x.result = .error r → r.Apart

variable {α β : Type} {x : Checked α} {a b : CheckedQuantity}

/-- What becomes of an accepted answer does not matter. -/
lemma RefusesApart.map (f : α → β) (apart : RefusesApart x) : RefusesApart (x.map f) := by
  intro r refused
  obtain ⟨result, notices⟩ := x
  cases result with
  | ok a => cases refused
  | error r =>
    cases refused
    exact apart _ rfl

/-- A check that two sides are the same refuses none that are. -/
lemma refusesApart_check {same : Prop} [Decidable same] {answer : α} {notice : Notice} {r : Refusal}
    (apart : ¬same → r.Apart) :
    RefusesApart (if same then .accept answer else .reject notice r) := by
  intro cause refused
  split at refused
  · cases refused
  · rename_i different
    cases refused
    exact apart different

lemma requireSame_refusesApart (operation : Comparison) :
    RefusesApart (requireSame operation a b) :=
  refusesApart_check fun different => different

lemma convert_refusesApart (target : Identity) : RefusesApart (a.convert target) :=
  refusesApart_check fun different => different

lemma view_refusesApart (u : UnitExpr) (hu : u.Evaluates) : RefusesApart (a.view u hu) :=
  refusesApart_check fun different => different

lemma compose_refusesApart {m : Float} {i? : Option Identity} : RefusesApart (compose m i?) := by
  intro r refused
  obtain ⟨_, rfl⟩ := compose_eq_error_iff.1 refused
  trivial

lemma ofParts_refusesApart {m : Float} {num den : Int64} {e : Exponent} {es : List Exponent} :
    RefusesApart (ofParts m num den e es) := by
  by_cases seven : es.length = 7
  · by_cases zero : num = 0 ∨ den = 0
    · rw [ofParts_of_zero seven zero]
      intro r refused
      cases refused
      trivial
    · obtain ⟨table, shape⟩ := Option.isSome_iff_exists.1 (PerBase.ofList?_isSome_iff.2 seven)
      rw [ofParts_of_nonzero shape zero]
      exact compose_refusesApart
  · rw [ofParts_of_shape seven]
    intro r refused
    cases refused
    trivial

namespace Request

/-- No request is refused for two sides that are the same. -/
lemma refusesApart (request : Request) : RefusesApart request.outcome := by
  cases request with
  | ofParts m num den e es => exact ofParts_refusesApart.map _
  | add a b => exact ((requireSame_refusesApart .addition).map _).map _
  | sub a b => exact ((requireSame_refusesApart .subtraction).map _).map _
  | addTo a b =>
    rw [outcome, CheckedQuantity.addTo, update_snd]
    exact ((requireSame_refusesApart .addition).map _).map _
  | subFrom a b =>
    rw [outcome, CheckedQuantity.subFrom, update_snd]
    exact ((requireSame_refusesApart .subtraction).map _).map _
  | compare a b => exact ((requireSame_refusesApart .comparison).map _).map _
  | mul a b => exact compose_refusesApart.map _
  | div a b => exact compose_refusesApart.map _
  | pow a n => exact compose_refusesApart.map _
  | convert a target => exact (convert_refusesApart target).map _
  | toNumber a => exact ((convert_refusesApart .scalar).map _).map _
  | view a u hu => exact (view_refusesApart u hu).map _

/-- Texts of identities and of dimensions are unambiguous. So whatever is requested, the message of a
mismatch of units or of dimensions never shows one text twice. -/
theorem mismatch_texts_differ :
    Function.Injective Identity.text ∧ Function.Injective Dimension.text ∧
    ∀ request : Request,
      (∀ left right, request.outcome.result = .error (.unitMismatch left right) →
        (Refusal.unitMismatch left right).message =
          "unit mismatch: " ++ left.text ++ " is not " ++ right.text ∧
        left.text ≠ right.text) ∧
      ∀ source target, request.outcome.result = .error (.dimensionMismatch source target) →
        (Refusal.dimensionMismatch source target).message =
          "cannot convert dimension " ++ source.text ++ " into " ++ target.text ∧
        source.text ≠ target.text := by
  refine ⟨Identity.text_injective, Dimension.text_injective, fun request => ⟨?_, ?_⟩⟩
  · intro left right refused
    have apart : left ≠ right := request.refusesApart _ refused
    exact ⟨rfl, Identity.text_injective.ne apart⟩
  · intro source target refused
    have apart : source ≠ target := request.refusesApart _ refused
    exact ⟨rfl, Dimension.text_injective.ne apart⟩

/-- Metres are not added to kilometres, and a length is not converted to a time. -/
theorem mismatch_texts_differ_lengths :
    let metre : Identity := ⟨.one, .zero, .of .length⟩
    let kilometre : Identity := ⟨.one, ⟨3, by decide⟩, .of .length⟩
    let second : Identity := ⟨.one, .zero, .of .time⟩
    ((add ⟨1, metre⟩ ⟨1, kilometre⟩).outcome.result = .error (.unitMismatch metre kilometre) ∧
      (Refusal.unitMismatch metre kilometre).message =
        "unit mismatch: 1 × 10^0 [L] is not 1 × 10^3 [L]" ∧
      metre.text ≠ kilometre.text) ∧
    (convert ⟨1, metre⟩ second).outcome.result =
      .error (.dimensionMismatch metre.dimension second.dimension) ∧
    (Refusal.dimensionMismatch metre.dimension second.dimension).message =
      "cannot convert dimension L into T" ∧
    metre.dimension.text ≠ second.dimension.text := by
  intro metre kilometre second
  have units : (add ⟨1, metre⟩ ⟨1, kilometre⟩).outcome.result =
      .error (.unitMismatch metre kilometre) := rfl
  have dimensions : (convert ⟨1, metre⟩ second).outcome.result =
      .error (.dimensionMismatch metre.dimension second.dimension) := rfl
  obtain ⟨_, _, differ⟩ := mismatch_texts_differ
  exact ⟨⟨units, by decide, ((differ _).1 _ _ units).2⟩,
    dimensions, by decide, ((differ _).2 _ _ dimensions).2⟩

end Request

end CheckedQuantity

end Metrology
