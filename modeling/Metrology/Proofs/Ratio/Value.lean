import Mathlib
import Metrology.Ratio

/-!
# Ratios as rational numbers

Every operation on ratios is the operation on the rational numbers that they denote: it answers with
the ratio of the exact result, and refuses exactly when no ratio denotes that result. So each
operation has one lemma here, an equivalence between its answer and an equation in `Rat`, and nothing
else about it is needed later.

Powers are refused as soon as a partial product does not fit. `Representable.pow_of_le` says that this
refuses nothing that fits in the end: of the powers of a number, the representable ones form an
initial segment, although the range of words has one more negative number than positive ones.
-/

namespace Metrology

/-- Powers up to one that fits a word fit as well. -/
lemma Fits64.pow_of_le {a : Int} {k n : Nat} (fits : Fits64 (a ^ n)) (le : k ≤ n) :
    Fits64 (a ^ k) := by
  rcases Nat.eq_or_lt_of_le le with rfl | lt
  · exact fits
  by_cases small : a.natAbs ≤ 1
  · have bound : (a ^ k).natAbs ≤ 1 := by
      rw [Int.natAbs_pow]
      exact pow_le_one₀ (Nat.zero_le _) small
    omega
  · -- one more factor at least doubles, so a proper part of the power stays off the least word
    have step : (a ^ k).natAbs * 2 ≤ (a ^ n).natAbs := by
      rw [Int.natAbs_pow, Int.natAbs_pow]
      calc a.natAbs ^ k * 2 ≤ a.natAbs ^ k * a.natAbs := Nat.mul_le_mul_left _ (by omega)
        _ = a.natAbs ^ (k + 1) := (Nat.pow_succ ..).symm
        _ ≤ a.natAbs ^ n := Nat.pow_le_pow_right (by omega) lt
    omega

namespace Ratio

/-! ## Representable numbers -/

/-- Whether a rational number in lowest terms fits two words of 64 bits. -/
def Representable (x : Rat) : Prop :=
  Fits64 x.num ∧ x.den < 9223372036854775808

/-- A ratio denotes a representable number. -/
lemma value_representable (r : Ratio) : Representable r.value :=
  ⟨r.num_range, r.den_lt⟩

/-- The numbers that ratios denote are the representable ones. -/
lemma exists_value_eq_iff {x : Rat} : (∃ r : Ratio, r.value = x) ↔ Representable x := by
  constructor
  · rintro ⟨r, rfl⟩
    exact r.value_representable
  · intro fits
    exact ⟨⟨x.num, x.den, fits.1, x.den_pos, fits.2, x.reduced⟩, rfl⟩

/-- Powers up to a representable one are representable. -/
lemma Representable.pow_of_le {x : Rat} {k n : Nat} (fits : Representable (x ^ n)) (le : k ≤ n) :
    Representable (x ^ k) := by
  refine ⟨fits.1.pow_of_le le, ?_⟩
  exact Nat.lt_of_le_of_lt (Nat.pow_le_pow_right x.den_pos le) fits.2

/-! ## Reduction -/

/-- A ratio denotes a number if both have the same parts in lowest terms. -/
lemma value_eq_iff {r : Ratio} {x : Rat} : r.value = x ↔ r.num = x.num ∧ r.den = x.den := by
  constructor
  · rintro rfl
    exact ⟨rfl, rfl⟩
  · rintro ⟨num, den⟩
    exact Rat.ext num den

/-- A ratio denotes its numerator over its denominator. -/
lemma value_eq_div (r : Ratio) : r.value = r.num / r.den :=
  (Rat.num_div_den r.value).symm

/-- A ratio denotes zero if its numerator is zero. -/
lemma value_eq_zero_iff {r : Ratio} : r.value = 0 ↔ r.num = 0 :=
  Rat.num_eq_zero.symm

lemma value_ne_zero_iff {r : Ratio} : r.value ≠ 0 ↔ r.isZero = false := by
  rw [Ne, value_eq_zero_iff, isZero, beq_eq_false_iff_ne]

/-- Lowest terms are numerator and denominator of the quotient. -/
lemma lowestTerms_parts (num : Int) {den : Int} (nonzero : den ≠ 0) :
    (lowestTerms num den).1 = (num / den : Rat).num ∧
      (lowestTerms num den).2 = (num / den : Rat).den := by
  rw [← Rat.divInt_eq_div, Rat.num_divInt, Rat.den_divInt, if_neg nonzero, Int.gcd_comm den num,
    Int.mul_ediv_assoc _ (Int.gcd_dvd_left ..)]
  exact ⟨rfl, rfl⟩

/-- Reduction answers with the ratio of the quotient. -/
lemma reduce?_eq_some_iff {num den : Int} {r : Ratio} :
    reduce? num den = some r ↔ den ≠ 0 ∧ r.value = num / den := by
  by_cases zero : den = 0
  · simp [reduce?, zero]
  obtain ⟨num_low, den_low⟩ := lowestTerms_parts num zero
  simp only [reduce?, dif_neg zero, value_eq_iff, ← num_low, ← den_low]
  by_cases fits : Fits64 (lowestTerms num den).1 ∧ (lowestTerms num den).2 < 9223372036854775808
  · simp [dif_pos fits, Ratio.ext_iff, zero, eq_comm]
  · simp only [dif_neg fits, reduceCtorEq, false_iff]
    rintro ⟨_, num_eq, den_eq⟩
    exact fits ⟨num_eq ▸ r.num_range, den_eq ▸ r.den_lt⟩

/-! ## Operations -/

/-- Words are divided exactly; only zero cannot be divided by. -/
lemma ofWords?_eq_some_iff {num den : Int64} {r : Ratio} :
    ofWords? num den = some r ↔ den ≠ 0 ∧ r.value = num.toInt / den.toInt := by
  have nonzero : den.toInt ≠ 0 ↔ den ≠ 0 := not_congr (Int64.toInt_inj (y := 0))
  rw [ofWords?, reduce?_eq_some_iff, nonzero]

/-- Products are exact. -/
lemma mul?_eq_some_iff {a b c : Ratio} : a.mul? b = some c ↔ c.value = a.value * b.value := by
  have nonzero : (a.den * b.den : Int) ≠ 0 := by
    have := a.den_pos
    have := b.den_pos
    positivity
  rw [mul?, reduce?_eq_some_iff, and_iff_right nonzero, a.value_eq_div, b.value_eq_div,
    div_mul_div_comm]
  push_cast
  rfl

/-- Quotients are exact; only zero cannot be divided by. -/
lemma div?_eq_some_iff {a b c : Ratio} :
    a.div? b = some c ↔ b.value ≠ 0 ∧ c.value = a.value / b.value := by
  have positive : (a.den : Int) ≠ 0 := Int.natCast_ne_zero.2 (Nat.ne_of_gt a.den_pos)
  rw [div?, reduce?_eq_some_iff, Ne, Ne, value_eq_zero_iff, mul_eq_zero, or_iff_right positive,
    a.value_eq_div, b.value_eq_div, div_div_div_eq]
  push_cast
  rfl

/-- Reciprocals are exact; only zero has none. -/
lemma recip?_eq_some_iff {r s : Ratio} :
    r.recip? = some s ↔ r.value ≠ 0 ∧ s.value = r.value⁻¹ := by
  rw [recip?, reduce?_eq_some_iff, Ne, Ne, value_eq_zero_iff, r.value_eq_div, inv_div]
  push_cast
  rfl

@[simp] lemma natPow?_zero (r : Ratio) : r.natPow? 0 = some one := rfl

@[simp] lemma natPow?_succ (r : Ratio) (n : Nat) :
    r.natPow? (n + 1) = (r.natPow? n).bind (·.mul? r) := by
  simp only [natPow?, iterate_eq]
  rfl

/-- Powers are exact: no partial product is refused on the way to a power that fits. -/
lemma natPow?_eq_some_iff {r s : Ratio} {n : Nat} :
    r.natPow? n = some s ↔ s.value = r.value ^ n := by
  induction n generalizing s with
  | zero =>
    rw [natPow?_zero, pow_zero, Option.some.injEq, eq_comm]
    exact ⟨fun h => h ▸ rfl, fun h => value_injective h⟩
  | succ n ih =>
    simp only [natPow?_succ, Option.bind_eq_some_iff, ih, mul?_eq_some_iff]
    constructor
    · rintro ⟨p, partialPower, rest⟩
      rw [rest, partialPower, pow_succ]
    · intro whole
      have fits : Representable (r.value ^ (n + 1)) := whole ▸ s.value_representable
      obtain ⟨p, partialPower⟩ := exists_value_eq_iff.2 (fits.pow_of_le n.le_succ)
      exact ⟨p, partialPower, by rw [whole, partialPower, pow_succ]⟩

/-- Integer powers are exact; only zero has no negative ones. -/
lemma pow?_eq_some_iff {r s : Ratio} {n : Exponent} :
    r.pow? n = some s ↔ (n.toInt < 0 → r.value ≠ 0) ∧ s.value = r.value ^ n.toInt := by
  by_cases negative : n.toInt < 0
  · obtain ⟨k, count⟩ : ∃ k : Nat, n.toInt = -((k + 1 : Nat) : Int) :=
      ⟨n.toInt.natAbs - 1, by omega⟩
    have power : r.value ^ n.toInt = r.value⁻¹ ^ (k + 1) := by
      rw [count, zpow_neg, zpow_natCast, inv_pow]
    rw [pow?, if_pos negative, Option.bind_eq_some_iff, power, show n.toInt.natAbs = k + 1 by omega]
    simp only [recip?_eq_some_iff, natPow?_eq_some_iff, negative, forall_const]
    constructor
    · rintro ⟨p, ⟨nonzero, reciprocal⟩, whole⟩
      exact ⟨nonzero, by rw [whole, reciprocal]⟩
    · rintro ⟨nonzero, whole⟩
      have fits : Representable (r.value⁻¹ ^ (k + 1)) := whole ▸ s.value_representable
      obtain ⟨p, reciprocal⟩ := exists_value_eq_iff.2 (fits.pow_of_le (Nat.le_add_left 1 k))
      rw [pow_one] at reciprocal
      exact ⟨p, ⟨nonzero, reciprocal⟩, by rw [whole, reciprocal]⟩
  · rw [pow?, if_neg negative, natPow?_eq_some_iff, ← zpow_natCast,
      Int.natAbs_of_nonneg (Int.not_lt.1 negative)]
    simp only [negative, false_implies, true_and]

end Ratio

end Metrology
