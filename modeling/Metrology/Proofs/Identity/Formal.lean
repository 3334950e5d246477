import Mathlib
import Metrology.Dimension.Formal
import Metrology.Identity
import Metrology.Proofs.Ratio.Value

/-!
# Formal identities

The exact triple behind an identity: a rational number, an integer power of ten and a formal
dimension, none of them bounded. Formal identities are multiplied, divided and raised to powers
without any refusal, and `FormalIdentity.Fits` says which of them an identity can hold. An operation
on identities is then one equation between formal ones: it answers with the identity that denotes
the exact result, and refuses if that result does not fit.
-/

namespace Metrology

/-- Exponents are determined by arithmetic on integers. -/
lemma Exponent.add?_eq_some_iff {a b c : Exponent} :
    a.add? b = some c ↔ c.toInt = a.toInt + b.toInt :=
  ofInt?_eq_some_iff

lemma Exponent.sub?_eq_some_iff {a b c : Exponent} :
    a.sub? b = some c ↔ c.toInt = a.toInt - b.toInt :=
  ofInt?_eq_some_iff

lemma Exponent.mul?_eq_some_iff {a b c : Exponent} :
    a.mul? b = some c ↔ c.toInt = a.toInt * b.toInt :=
  ofInt?_eq_some_iff

/-! ## Dimensions -/

namespace Dimension

/-- The exponents of a dimension as unbounded integers. -/
def formal (d : Dimension) : FormalDimension :=
  ⟨.ofFn fun q => (d.exponent q).toInt⟩

@[simp] lemma exponent_formal (d : Dimension) (q : BaseQuantity) :
    d.formal.exponent q = (d.exponent q).toInt :=
  PerBase.get_ofFn _ q

/-- A dimension denotes a formal one if all exponents agree. -/
lemma formal_eq_iff {d : Dimension} {x : FormalDimension} :
    d.formal = x ↔ ∀ q, (d.exponent q).toInt = x.exponent q := by
  constructor
  · rintro rfl q
    exact (exponent_formal d q).symm
  · intro same
    ext q
    rw [exponent_formal, same]

lemma formal_injective {a b : Dimension} (h : a.formal = b.formal) : a = b := by
  ext q
  rw [formal_eq_iff.1 h q, exponent_formal]

/-- A table of exponents that may be refused is complete if every entry is the exact one. -/
lemma map_ofFn?_eq_some_iff {f : BaseQuantity → Int} {d : Dimension} :
    (PerBase.ofFn? fun q => Exponent.ofInt? (f q)).map mk = some d ↔
      ∀ q, (d.exponent q).toInt = f q := by
  rw [Option.map_eq_some_iff]
  constructor
  · rintro ⟨table, entries, rfl⟩ q
    exact Exponent.ofInt?_eq_some_iff.1 (PerBase.ofFn?_eq_some_iff.1 entries q)
  · intro entries
    refine ⟨d.exponents, PerBase.ofFn?_eq_some_iff.2 fun q => ?_, rfl⟩
    exact Exponent.ofInt?_eq_some_iff.2 (entries q)

lemma mul?_eq_some_iff {a b c : Dimension} : a.mul? b = some c ↔ c.formal = a.formal * b.formal := by
  simp only [formal_eq_iff, FormalDimension.exponent_mul, exponent_formal]
  exact map_ofFn?_eq_some_iff

lemma div?_eq_some_iff {a b c : Dimension} : a.div? b = some c ↔ c.formal = a.formal / b.formal := by
  simp only [formal_eq_iff, FormalDimension.exponent_div, exponent_formal]
  exact map_ofFn?_eq_some_iff

lemma pow?_eq_some_iff {a c : Dimension} {n : Exponent} :
    a.pow? n = some c ↔ c.formal = a.formal ^ n.toInt := by
  simp only [formal_eq_iff, FormalDimension.exponent_pow, exponent_formal]
  exact map_ofFn?_eq_some_iff

end Dimension

/-- A formal dimension is stored as the dimension that denotes it. -/
lemma FormalDimension.toDimension?_eq_some_iff {x : FormalDimension} {d : Dimension} :
    x.toDimension? = some d ↔ d.formal = x := by
  rw [Dimension.formal_eq_iff]
  exact Dimension.map_ofFn?_eq_some_iff

/-! ## Triples -/

/-- A rational number, a power of ten and exponents of base quantities, without bounds. -/
@[ext] structure FormalIdentity where
  ratio : Rat
  exponent : Int
  dimension : FormalDimension

namespace FormalIdentity

protected def mul (a b : FormalIdentity) : FormalIdentity :=
  ⟨a.ratio * b.ratio, a.exponent + b.exponent, a.dimension * b.dimension⟩

protected def div (a b : FormalIdentity) : FormalIdentity :=
  ⟨a.ratio / b.ratio, a.exponent - b.exponent, a.dimension / b.dimension⟩

protected def pow (a : FormalIdentity) (n : Int) : FormalIdentity :=
  ⟨a.ratio ^ n, a.exponent * n, a.dimension ^ n⟩

instance : Mul FormalIdentity := ⟨FormalIdentity.mul⟩

instance : Div FormalIdentity := ⟨FormalIdentity.div⟩

instance : HPow FormalIdentity Int FormalIdentity := ⟨FormalIdentity.pow⟩

/-- Whether an identity can hold a triple: the ratio in lowest terms fits words of 64 bits, the power
of ten and the seven exponents fit words of 32 bits. -/
structure Fits (x : FormalIdentity) : Prop where
  ratio : Ratio.Representable x.ratio
  exponent : Fits32 x.exponent
  dimension : ∀ q, Fits32 (x.dimension.exponent q)

end FormalIdentity

namespace Identity

/-- The exact triple that an identity denotes. -/
def formal (i : Identity) : FormalIdentity :=
  ⟨i.ratio.value, i.exponent.toInt, i.dimension.formal⟩

lemma formal_eq_iff {i : Identity} {x : FormalIdentity} :
    i.formal = x ↔
      i.ratio.value = x.ratio ∧ i.exponent.toInt = x.exponent ∧ i.dimension.formal = x.dimension :=
  FormalIdentity.ext_iff

lemma formal_injective {a b : Identity} (h : a.formal = b.formal) : a = b := by
  obtain ⟨ratio, exponent, dimension⟩ := formal_eq_iff.1 h
  ext1
  · exact Ratio.value_injective ratio
  · exact Exponent.ext exponent
  · exact Dimension.formal_injective dimension

lemma formal_fits (i : Identity) : i.formal.Fits where
  ratio := i.ratio.value_representable
  exponent := i.exponent.range
  dimension q := by
    rw [formal, Dimension.exponent_formal]
    exact (i.dimension.exponent q).range

/-- The triples that identities denote are those that fit. -/
lemma exists_formal_eq_iff {x : FormalIdentity} : (∃ i : Identity, i.formal = x) ↔ x.Fits := by
  constructor
  · rintro ⟨i, rfl⟩
    exact i.formal_fits
  · intro fits
    obtain ⟨ratio, value⟩ := Ratio.exists_value_eq_iff.2 fits.ratio
    let table : PerBase Exponent := .ofFn fun q => ⟨x.dimension.exponent q, fits.dimension q⟩
    refine ⟨⟨ratio, ⟨x.exponent, fits.exponent⟩, ⟨table⟩⟩, formal_eq_iff.2 ⟨value, rfl, ?_⟩⟩
    refine Dimension.formal_eq_iff.2 fun q => ?_
    exact congrArg Exponent.toInt (PerBase.get_ofFn _ q)

/-! ## Composition -/

/-- A product is composed of the products of the parts. -/
lemma mul?_eq_some_iff_parts {a b c : Identity} :
    a.mul? b = some c ↔ a.ratio.mul? b.ratio = some c.ratio ∧
      a.exponent.add? b.exponent = some c.exponent ∧
      a.dimension.mul? b.dimension = some c.dimension := by
  obtain ⟨ratio, exponent, dimension⟩ := c
  simp [mul?, Option.bind_eq_some_iff]

lemma div?_eq_some_iff_parts {a b c : Identity} :
    a.div? b = some c ↔ a.ratio.div? b.ratio = some c.ratio ∧
      a.exponent.sub? b.exponent = some c.exponent ∧
      a.dimension.div? b.dimension = some c.dimension := by
  obtain ⟨ratio, exponent, dimension⟩ := c
  simp [div?, Option.bind_eq_some_iff]

lemma pow?_eq_some_iff_parts {a c : Identity} {n : Exponent} :
    a.pow? n = some c ↔ a.ratio.pow? n = some c.ratio ∧
      a.exponent.mul? n = some c.exponent ∧
      a.dimension.pow? n = some c.dimension := by
  obtain ⟨ratio, exponent, dimension⟩ := c
  simp [pow?, Option.bind_eq_some_iff]

/-- Products of identities are exact. -/
lemma mul?_eq_some_iff {a b c : Identity} :
    a.mul? b = some c ↔ c.formal = a.formal * b.formal := by
  rw [mul?_eq_some_iff_parts, Ratio.mul?_eq_some_iff, Exponent.add?_eq_some_iff,
    Dimension.mul?_eq_some_iff, formal_eq_iff]
  rfl

/-- Quotients of identities are exact; only a zero scale cannot be divided by. -/
lemma div?_eq_some_iff {a b c : Identity} :
    a.div? b = some c ↔ b.ratio.value ≠ 0 ∧ c.formal = a.formal / b.formal := by
  rw [div?_eq_some_iff_parts, Ratio.div?_eq_some_iff, Exponent.sub?_eq_some_iff,
    Dimension.div?_eq_some_iff, formal_eq_iff, and_assoc]
  rfl

/-- Powers of identities are exact; only a zero scale has no negative ones. -/
lemma pow?_eq_some_iff {a c : Identity} {n : Exponent} :
    a.pow? n = some c ↔
      (n.toInt < 0 → a.ratio.value ≠ 0) ∧ c.formal = a.formal ^ n.toInt := by
  rw [pow?_eq_some_iff_parts, Ratio.pow?_eq_some_iff, Exponent.mul?_eq_some_iff,
    Dimension.pow?_eq_some_iff, formal_eq_iff, and_assoc]
  rfl

/-! ## Refusals -/

/-- An operation that answers with the identity of an exact triple answers wherever that triple
exists and fits. -/
lemma isSome_iff_fits {answer : Option Identity} {defined : Prop} {x : FormalIdentity}
    (denotes : ∀ {i}, answer = some i ↔ defined ∧ i.formal = x) :
    answer.isSome ↔ defined ∧ x.Fits := by
  rw [Option.isSome_iff_exists, ← exists_formal_eq_iff, ← exists_and_left]
  exact exists_congr fun i => denotes

/-- Products are refused only where the exact one does not fit. -/
lemma isSome_mul?_iff {a b : Identity} : (a.mul? b).isSome ↔ (a.formal * b.formal).Fits := by
  have denotes : ∀ {i}, a.mul? b = some i ↔ True ∧ i.formal = a.formal * b.formal := by
    intro i
    rw [true_and]
    exact mul?_eq_some_iff
  rw [isSome_iff_fits denotes, true_and]

lemma isSome_div?_iff {a b : Identity} :
    (a.div? b).isSome ↔ b.ratio.value ≠ 0 ∧ (a.formal / b.formal).Fits :=
  isSome_iff_fits div?_eq_some_iff

lemma isSome_pow?_iff {a : Identity} {n : Exponent} :
    (a.pow? n).isSome ↔ (n.toInt < 0 → a.ratio.value ≠ 0) ∧ (a.formal ^ n.toInt).Fits :=
  isSome_iff_fits pow?_eq_some_iff

end Identity

end Metrology
