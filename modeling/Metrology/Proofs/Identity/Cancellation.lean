import Metrology.Proofs.Identity.Formal

/-!
# Undoing products and quotients

A quotient takes back a product, and a product takes back a quotient. Main statement: this holds of
identities as they are stored, whatever the first step came to. The first result may lie at the edge
of the words that hold it, in its ratio, its power of ten or any exponent of its dimension; the step
back is never refused, since it leads to an identity that is stored already.

Only a zero scale cannot be taken back: the product with it is zero, and nothing can be divided by it.
-/

namespace Metrology

namespace FormalIdentity

/-- Division takes back a multiplication, unless the scale is zero. -/
lemma mul_div_cancel (x : FormalIdentity) {y : FormalIdentity} (regular : y.ratio ≠ 0) :
    x * y / y = x := by
  ext q
  · exact mul_div_cancel_right₀ x.ratio regular
  · exact add_sub_cancel_right x.exponent y.exponent
  · show (x.dimension * y.dimension / y.dimension).exponent q = x.dimension.exponent q
    rw [FormalDimension.exponent_div, FormalDimension.exponent_mul, add_sub_cancel_right]

/-- Multiplication takes back a division, unless the scale is zero. -/
lemma div_mul_cancel (x : FormalIdentity) {y : FormalIdentity} (regular : y.ratio ≠ 0) :
    x / y * y = x := by
  ext q
  · exact div_mul_cancel₀ x.ratio regular
  · exact sub_add_cancel x.exponent y.exponent
  · show (x.dimension / y.dimension * y.dimension).exponent q = x.dimension.exponent q
    rw [FormalDimension.exponent_mul, FormalDimension.exponent_div, sub_add_cancel]

end FormalIdentity

namespace Identity

/-- Where the scale is not zero, one identity is a product exactly if the other is the quotient. -/
lemma mul?_eq_some_iff_div?_eq_some {a b c : Identity} (regular : b.ratio.value ≠ 0) :
    a.mul? b = some c ↔ c.div? b = some a := by
  rw [mul?_eq_some_iff, div?_eq_some_iff, and_iff_right regular]
  constructor
  · intro product
    rw [product, FormalIdentity.mul_div_cancel _ regular]
  · intro quotient
    rw [quotient, FormalIdentity.div_mul_cancel _ regular]

/-- Products and quotients of identities undo each other. The first step is accepted wherever its
exact result exists and fits, and then the step back is never refused. -/
theorem mul?_div?_undo (a b : Identity) :
    ((a.mul? b).isSome ↔ (a.formal * b.formal).Fits) ∧
    (∀ p, a.mul? b = some p → b.ratio.isZero = false → p.div? b = some a) ∧
    ((a.div? b).isSome ↔ b.ratio.isZero = false ∧ (a.formal / b.formal).Fits) ∧
    ∀ q, a.div? b = some q → q.mul? b = some a := by
  refine ⟨isSome_mul?_iff, ?_, ?_, ?_⟩
  · intro p product nonzero
    exact (mul?_eq_some_iff_div?_eq_some (Ratio.value_ne_zero_iff.2 nonzero)).1 product
  · rw [isSome_div?_iff, Ratio.value_ne_zero_iff]
  · intro q quotient
    have regular : b.ratio.value ≠ 0 := (div?_eq_some_iff.1 quotient).1
    exact (mul?_eq_some_iff_div?_eq_some regular).2 quotient

/-- Both ways at the edge of the words: twice the scale with the sign changed is the least numerator,
one more power of ten the greatest exponent, one length less the least one. -/
theorem mul?_div?_undo_edge :
    let lengths (n : Exponent) : Dimension :=
      ⟨.ofFn fun q => if q = .length then n else .zero⟩
    let a : Identity :=
      ⟨⟨4611686018427387904, 1, by decide, by decide, by decide, by decide⟩,
        ⟨2147483646, by decide⟩, lengths ⟨-2147483647, by decide⟩⟩
    let twice : Identity :=
      ⟨⟨-2, 1, by decide, by decide, by decide, by decide⟩, .one, lengths ⟨-1, by decide⟩⟩
    let half : Identity :=
      ⟨⟨-1, 2, by decide, by decide, by decide, by decide⟩, ⟨-1, by decide⟩, lengths .one⟩
    let edge : Identity :=
      ⟨⟨-9223372036854775808, 1, by decide, by decide, by decide, by decide⟩,
        ⟨2147483647, by decide⟩, lengths ⟨-2147483648, by decide⟩⟩
    (a.mul? twice = some edge ∧ edge.div? twice = some a) ∧
      (a.div? half = some edge ∧ edge.mul? half = some a) := by
  intro lengths a twice half edge
  have product : a.mul? twice = some edge := by decide
  have quotient : a.div? half = some edge := by decide
  exact ⟨⟨product, (mul?_div?_undo a twice).2.1 edge product rfl⟩,
    ⟨quotient, (mul?_div?_undo a half).2.2.2 edge quotient⟩⟩

end Identity

end Metrology
