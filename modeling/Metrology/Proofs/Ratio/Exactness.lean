import Metrology.Proofs.Ratio.Value

/-!
# Exactness of ratio arithmetic

A ratio is a fraction of words, yet its arithmetic is that of the rational numbers. Main statements:
products, quotients, reciprocals and powers are answered exactly where the result exists and its
lowest terms fit, and the answer has those terms. Hence a number has one ratio only, whichever
operations it was built by, and a power is never given up on the way to a result that fits.

A construction is a tree of operations over words. It is run on ratios, where every step may be
refused, and it has a value in `Rat`, where none is; `Construction.value_of_build?` ties the two.
-/

namespace Metrology.Ratio

/-- An exact answer: there is one exactly if the result `x` exists and its lowest terms fit words of
64 bits, and then it has those terms, with the positive denominator that `Rat` gives them (one for
zero). -/
structure AnswersExactly (answer : Option Ratio) (defined : Prop) (x : Rat) : Prop where
  isSome_iff : answer.isSome ↔ defined ∧ Representable x
  terms : ∀ r ∈ answer, r.num = x.num ∧ r.den = x.den

/-- An operation that answers with the ratio of its result answers exactly. -/
lemma AnswersExactly.of_iff {answer : Option Ratio} {defined : Prop} {x : Rat}
    (denotes : ∀ {r}, answer = some r ↔ defined ∧ r.value = x) :
    AnswersExactly answer defined x where
  isSome_iff := by
    rw [Option.isSome_iff_exists, ← exists_value_eq_iff, ← exists_and_left]
    exact exists_congr fun r => denotes
  terms r answered := value_eq_iff.1 (denotes.1 answered).2

lemma ofWords?_answersExactly (num den : Int64) :
    AnswersExactly (ofWords? num den) (den ≠ 0) (num.toInt / den.toInt) :=
  .of_iff ofWords?_eq_some_iff

/-! ## Constructions -/

/-- A way to build a ratio from words. -/
inductive Construction where
  | words (num den : Int64)
  | product (a b : Construction)
  | quotient (a b : Construction)
  | reciprocal (a : Construction)
  | power (a : Construction) (n : Exponent)

namespace Construction

/-- The ratio that a construction ends with, unless a step is refused. -/
def build? : Construction → Option Ratio
  | words num den => ofWords? num den
  | product a b => do (← a.build?).mul? (← b.build?)
  | quotient a b => do (← a.build?).div? (← b.build?)
  | reciprocal a => do (← a.build?).recip?
  | power a n => do (← a.build?).pow? n

/-- The number that a construction describes. -/
def value : Construction → Rat
  | words num den => num.toInt / den.toInt
  | product a b => a.value * b.value
  | quotient a b => a.value / b.value
  | reciprocal a => a.value⁻¹
  | power a n => a.value ^ n.toInt

/-- What is built denotes the number that is described. -/
lemma value_of_build? {c : Construction} {r : Ratio} (built : c.build? = some r) :
    r.value = c.value := by
  induction c generalizing r with
  | words num den => exact (ofWords?_eq_some_iff.1 built).2
  | product a b iha ihb =>
    obtain ⟨s, left, rest⟩ := Option.bind_eq_some_iff.1 built
    obtain ⟨t, right, last⟩ := Option.bind_eq_some_iff.1 rest
    rw [mul?_eq_some_iff.1 last, iha left, ihb right, value]
  | quotient a b iha ihb =>
    obtain ⟨s, left, rest⟩ := Option.bind_eq_some_iff.1 built
    obtain ⟨t, right, last⟩ := Option.bind_eq_some_iff.1 rest
    rw [(div?_eq_some_iff.1 last).2, iha left, ihb right, value]
  | reciprocal a ih =>
    obtain ⟨s, inner, last⟩ := Option.bind_eq_some_iff.1 built
    rw [(recip?_eq_some_iff.1 last).2, ih inner, value]
  | power a n ih =>
    obtain ⟨s, inner, last⟩ := Option.bind_eq_some_iff.1 built
    rw [(pow?_eq_some_iff.1 last).2, ih inner, value]

end Construction

/-- Arithmetic on ratios is exact and canonical. Ratios of words, products, quotients and reciprocals
are answered exactly where they exist and fit, in lowest terms with a positive denominator; and two
constructions, of any length, end with the same ratio exactly if they describe the same number. -/
theorem arithmetic_exact_and_canonical :
    (∀ num den : Int64, AnswersExactly (ofWords? num den) (den ≠ 0) (num.toInt / den.toInt)) ∧
    (∀ a b : Ratio,
      AnswersExactly (a.mul? b) True (a.value * b.value) ∧
      AnswersExactly (a.div? b) (b.value ≠ 0) (a.value / b.value) ∧
      AnswersExactly a.recip? (a.value ≠ 0) a.value⁻¹) ∧
    ∀ (c d : Construction) (a b : Ratio), c.build? = some a → d.build? = some b →
      a.value = c.value ∧ (a = b ↔ c.value = d.value) := by
  refine ⟨?_, ?_, ?_⟩
  · exact ofWords?_answersExactly
  · intro a b
    refine ⟨.of_iff ?_, .of_iff div?_eq_some_iff, .of_iff recip?_eq_some_iff⟩
    intro r
    rw [true_and]
    exact mul?_eq_some_iff
  · intro c d a b built_a built_b
    have denotes_a : a.value = c.value := Construction.value_of_build? built_a
    have denotes_b : b.value = d.value := Construction.value_of_build? built_b
    refine ⟨denotes_a, ?_⟩
    rw [← denotes_a, ← denotes_b]
    exact ⟨congrArg value, value_injective⟩

/-- The least word over three times three halves passes through a numerator that fits no word, and
ends with what a power and a quotient give elsewhere. -/
theorem canonical_halfLeast :
    let c : Construction := .product (.words (-9223372036854775808) 3) (.words 3 2)
    let d : Construction := .quotient (.power (.words (-2) 1) ⟨62, by decide⟩) (.words (-1) 1)
    ∃ a b, c.build? = some a ∧ d.build? = some b ∧ c.value = d.value ∧ a = b := by
  intro c d
  obtain ⟨a, built_a⟩ : ∃ a, c.build? = some a := ⟨_, rfl⟩
  obtain ⟨b, built_b⟩ : ∃ b, d.build? = some b := ⟨_, rfl⟩
  have same : c.value = d.value := by decide +kernel
  refine ⟨a, b, built_a, built_b, same, ?_⟩
  exact (arithmetic_exact_and_canonical.2.2 c d a b built_a built_b).2.2 same

/-! ## Powers -/

/-- The ratio whose copies make up a power: the reciprocal where the exponent is negative. -/
def powerBase? (r : Ratio) (n : Exponent) : Option Ratio :=
  if n.toInt < 0 then r.recip? else some r

lemma pow?_eq_bind (r : Ratio) (n : Exponent) :
    r.pow? n = (r.powerBase? n).bind (·.natPow? n.toInt.natAbs) := by
  unfold pow? powerBase?
  split
  · rfl
  · rfl

/-- Where a product of copies fits, every partial product is formed. -/
lemma natPow?_of_le {r s : Ratio} {k n : Nat} (formed : r.natPow? n = some s) (le : k ≤ n) :
    ∃ p, r.natPow? k = some p ∧ p.value = r.value ^ k := by
  have fits : Representable (r.value ^ n) := natPow?_eq_some_iff.1 formed ▸ s.value_representable
  obtain ⟨p, partialPower⟩ := exists_value_eq_iff.2 (fits.pow_of_le le)
  exact ⟨p, natPow?_eq_some_iff.2 partialPower, partialPower⟩

/-- Powers are exact, and none is refused early: where the power exists and its lowest terms fit, the
base has its reciprocal if one is needed, and every partial product is formed. -/
theorem pow?_exact (r : Ratio) (n : Exponent) :
    AnswersExactly (r.pow? n) (n.toInt < 0 → r.value ≠ 0) (r.value ^ n.toInt) ∧
    ((n.toInt < 0 → r.value ≠ 0) → Representable (r.value ^ n.toInt) →
      ∃ base, r.powerBase? n = some base ∧
        ∀ k ≤ n.toInt.natAbs, ∃ p, base.natPow? k = some p ∧ p.value = base.value ^ k) := by
  have exactly : AnswersExactly (r.pow? n) (n.toInt < 0 → r.value ≠ 0) (r.value ^ n.toInt) :=
    .of_iff pow?_eq_some_iff
  refine ⟨exactly, ?_⟩
  intro regular fits
  obtain ⟨s, power⟩ := Option.isSome_iff_exists.1 (exactly.isSome_iff.2 ⟨regular, fits⟩)
  rw [pow?_eq_bind] at power
  obtain ⟨base, reciprocal, formed⟩ := Option.bind_eq_some_iff.1 power
  exact ⟨base, reciprocal, fun k le => natPow?_of_le formed le⟩

/-- The least word is a power of minus one half, by way of a reciprocal and of partial products that
all fit. The next power has a result, but one that does not fit. -/
theorem pow?_exact_least :
    let r : Ratio := ⟨-1, 2, by decide, by decide, by decide, by decide⟩
    let n : Exponent := ⟨-63, by decide⟩
    let next : Exponent := ⟨-64, by decide⟩
    (n.toInt < 0 → r.value ≠ 0) ∧ Representable (r.value ^ n.toInt) ∧
      (∃ s, r.pow? n = some s ∧ s.num = -9223372036854775808 ∧ s.den = 1) ∧
      (∃ base, r.powerBase? n = some base ∧
        ∀ k ≤ n.toInt.natAbs, ∃ p, base.natPow? k = some p ∧ p.value = base.value ^ k) ∧
      r.pow? next = none := by
  intro r n next
  have regular : n.toInt < 0 → r.value ≠ 0 := fun _ => by decide
  have num : (r.value ^ n.toInt).num = -9223372036854775808 := by decide +kernel
  have den : (r.value ^ n.toInt).den = 1 := by decide +kernel
  have fits : Representable (r.value ^ n.toInt) := by
    rw [Representable, num, den]
    decide
  obtain ⟨answer, early⟩ := pow?_exact r n
  obtain ⟨s, power⟩ := Option.isSome_iff_exists.1 (answer.isSome_iff.2 ⟨regular, fits⟩)
  obtain ⟨num_eq, den_eq⟩ := answer.terms s power
  refine ⟨regular, fits, ⟨s, power, num_eq.trans num, den_eq.trans den⟩, early regular fits, ?_⟩
  have beyond : (r.value ^ next.toInt).num = 18446744073709551616 := by decide +kernel
  rw [← Option.not_isSome_iff_eq_none, (pow?_exact r next).1.isSome_iff]
  rintro ⟨_, fits_num, _⟩
  rw [beyond] at fits_num
  exact absurd fits_num (by decide)

end Metrology.Ratio
