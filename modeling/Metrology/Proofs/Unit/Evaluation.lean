import Metrology.Proofs.Identity.Formal
import Metrology.Unit.Expr

/-!
# Identities of unit expressions

The parts of an expression's identity are computed side by side, each by rules of its own. The lemmas
here put them together again: the identity of a product, a quotient or a power is the product,
quotient or power of the identities, composed as values are.
-/

namespace Metrology.UnitExpr

variable {u v : UnitExpr}

/-! ## Parts of composite units

What it takes for a part of a composite unit to fit: the parts of the operands do, and so does what
is composed of them.
-/

lemma ratio?_product {r : Ratio} (h : (product u v).ratio? = some r) :
    ∃ a b, u.ratio? = some a ∧ v.ratio? = some b ∧ a.mul? b = some r := by
  obtain ⟨a, ha, rest⟩ := Option.bind_eq_some_iff.1 h
  obtain ⟨b, hb, product⟩ := Option.bind_eq_some_iff.1 rest
  exact ⟨a, b, ha, hb, product⟩

lemma ratio?_quotient {r : Ratio} (h : (quotient u v).ratio? = some r) :
    ∃ a b, u.ratio? = some a ∧ v.ratio? = some b ∧ a.div? b = some r := by
  obtain ⟨a, ha, rest⟩ := Option.bind_eq_some_iff.1 h
  obtain ⟨b, hb, quotient⟩ := Option.bind_eq_some_iff.1 rest
  exact ⟨a, b, ha, hb, quotient⟩

lemma ratio?_power {n : Exponent} {r : Ratio} (h : (power u n).ratio? = some r) :
    ∃ a, u.ratio? = some a ∧ a.pow? n = some r :=
  Option.bind_eq_some_iff.1 h

lemma exponent?_product {e : Exponent} (h : (product u v).exponent? = some e) :
    ∃ a b, u.exponent? = some a ∧ v.exponent? = some b ∧ a.add? b = some e := by
  obtain ⟨a, ha, rest⟩ := Option.bind_eq_some_iff.1 h
  obtain ⟨b, hb, sum⟩ := Option.bind_eq_some_iff.1 rest
  exact ⟨a, b, ha, hb, sum⟩

lemma exponent?_quotient {e : Exponent} (h : (quotient u v).exponent? = some e) :
    ∃ a b, u.exponent? = some a ∧ v.exponent? = some b ∧ a.sub? b = some e := by
  obtain ⟨a, ha, rest⟩ := Option.bind_eq_some_iff.1 h
  obtain ⟨b, hb, difference⟩ := Option.bind_eq_some_iff.1 rest
  exact ⟨a, b, ha, hb, difference⟩

lemma exponent?_power {n e : Exponent} (h : (power u n).exponent? = some e) :
    ∃ a, u.exponent? = some a ∧ a.mul? n = some e :=
  Option.bind_eq_some_iff.1 h

/-! ## Identities -/

/-- An identity is that of an expression if its parts are. -/
lemma identity?_eq_some_iff {i : Identity} :
    u.identity? = some i ↔ u.ratio? = some i.ratio ∧ u.exponent? = some i.exponent ∧
      i.dimension.formal = u.dimension := by
  obtain ⟨ratio, exponent, dimension⟩ := i
  simp [identity?, Option.bind_eq_some_iff, FormalDimension.toDimension?_eq_some_iff]

lemma ratio?_eq_some (hu : u.Evaluates) : u.ratio? = some (u.identity hu).ratio :=
  (identity?_eq_some_iff.1 (identity?_eq_some hu)).1

lemma exponent?_eq_some (hu : u.Evaluates) : u.exponent? = some (u.identity hu).exponent :=
  (identity?_eq_some_iff.1 (identity?_eq_some hu)).2.1

lemma dimension_identity (hu : u.Evaluates) :
    (u.identity hu).dimension.formal = u.dimension :=
  (identity?_eq_some_iff.1 (identity?_eq_some hu)).2.2

/-- The identity of a product is the product of the identities. -/
lemma identity_product (hu : u.Evaluates) (hv : v.Evaluates) (h : (product u v).Evaluates) :
    (u.identity hu).mul? (v.identity hv) = some ((product u v).identity h) := by
  have ratio := ratio?_eq_some h
  have exponent := exponent?_eq_some h
  simp only [ratio?, ratio?_eq_some hu, ratio?_eq_some hv] at ratio
  simp only [exponent?, exponent?_eq_some hu, exponent?_eq_some hv] at exponent
  refine Identity.mul?_eq_some_iff_parts.2 ⟨ratio, exponent, Dimension.mul?_eq_some_iff.2 ?_⟩
  rw [dimension_identity, dimension_identity, dimension_identity]
  rfl

/-- The identity of a quotient is the quotient of the identities. -/
lemma identity_quotient (hu : u.Evaluates) (hv : v.Evaluates) (h : (quotient u v).Evaluates) :
    (u.identity hu).div? (v.identity hv) = some ((quotient u v).identity h) := by
  have ratio := ratio?_eq_some h
  have exponent := exponent?_eq_some h
  simp only [ratio?, ratio?_eq_some hu, ratio?_eq_some hv] at ratio
  simp only [exponent?, exponent?_eq_some hu, exponent?_eq_some hv] at exponent
  refine Identity.div?_eq_some_iff_parts.2 ⟨ratio, exponent, Dimension.div?_eq_some_iff.2 ?_⟩
  rw [dimension_identity, dimension_identity, dimension_identity]
  rfl

/-- The identity of a power is the power of the identity. -/
lemma identity_power {n : Exponent} (hu : u.Evaluates) (h : (power u n).Evaluates) :
    (u.identity hu).pow? n = some ((power u n).identity h) := by
  have ratio := ratio?_eq_some h
  have exponent := exponent?_eq_some h
  simp only [ratio?, ratio?_eq_some hu] at ratio
  simp only [exponent?, exponent?_eq_some hu] at exponent
  refine Identity.pow?_eq_some_iff_parts.2 ⟨ratio, exponent, Dimension.pow?_eq_some_iff.2 ?_⟩
  rw [dimension_identity, dimension_identity]
  rfl

end Metrology.UnitExpr
