import Mathlib
import Metrology.Proofs.Identity.Conversion

/-!
# Exact conversion factors

How a conversion factor compares to the exact one, a power of ten times the quotient of the scales.
Where the numerator and the denominator of the quotient, one of them with the power of ten, are
integers that doubles hold, the factor is the nearest double to the exact one.

In general the power of ten is multiplied to one of the parts before they are divided. It is the size
of that product, not of the factor, that decides whether the factor is finite and other than zero: so
some factors saturate although the exact one is well within the range of doubles.
-/

namespace Metrology

open Magnitude Float.Model.UnpackedFloat

namespace Identity

variable {x y : Float} {s t : Sign} {m n : Nat} {k : Int} {a b : Identity}

/-- The factor between two units as a rational number. -/
def exactFactor (a b : Identity) : ℚ :=
  10 ^ a.gap b * (a.ratio.value / b.ratio.value)

/-! ## Integers that doubles hold -/

/-- Scaling a quotient of integers rounds once, in the division. -/
lemma rounded_scaleByTen (num : Denotes x s m) (den : Denotes y t n)
    (num_le : m * 10 ^ k.toNat ≤ 2 ^ 53) (den_le : n * 10 ^ (-k).toNat ≤ 2 ^ 53) :
    Rounded (scaleByTen x y k) (s * t)
      ((m * 10 ^ k.toNat : Nat) / (n * 10 ^ (-k).toNat : Nat)) := by
  unfold scaleByTen
  split
  · rename_i nonneg
    have none : (-k).toNat = 0 := by omega
    rw [none, pow_zero, Nat.mul_one]
    exact (num.mul_natPower_ten num_le).div den
  · rename_i negative
    have none : k.toNat = 0 := by omega
    rw [none, pow_zero, Nat.mul_one]
    exact num.div (den.mul_natPower_ten den_le)

/-- Powers of ten on either side of a fraction are one power. -/
lemma natCast_scaled_div (m n : Nat) (k : Int) :
    ((m * 10 ^ k.toNat : Nat) / (n * 10 ^ (-k).toNat : Nat) : ℚ) = 10 ^ k * (m / n) := by
  have power : (10 : ℚ) ^ k = 10 ^ k.toNat / 10 ^ (-k).toNat := by
    rw [← zpow_natCast, ← zpow_natCast, ← zpow_sub₀ (by norm_num)]
    congr 1
    omega
  push_cast
  rw [power]
  field_simp

lemma natAbs_eq_signed (n : Int) : (n.natAbs : ℚ) = signed (signOf n) n := by
  rw [Nat.cast_natAbs]
  rcases lt_or_ge n 0 with negative | nonneg
  · rw [signOf_of_neg negative, abs_of_neg negative, Int.cast_neg]
    rfl
  · rw [signOf_of_nonneg nonneg, abs_of_nonneg nonneg]
    rfl

lemma signed_mul_div (s t : Sign) (r u v : ℚ) :
    signed (s * t) (r * (signed s u / signed t v)) = r * (u / v) := by
  cases s <;> cases t
  · show r * (-u / -v) = _
    rw [neg_div_neg_eq]
  · show -(r * (-u / v)) = _
    rw [neg_div, mul_neg, neg_neg]
  · show -(r * (u / -v)) = _
    rw [div_neg, mul_neg, neg_neg]
  · rfl

/-- Where the numerator and the denominator of the reduced quotient, one of them with the power of
ten, are at most `2 ^ 53`, the factor is the double nearest to the exact one, with the even mantissa
of two that are equally near. If the exact factor is a double, it is the factor. -/
theorem factorTo_nearestEven (a b : Identity) (ha : a.ratio.value ≠ 0) (hb : b.ratio.value ≠ 0)
    (num_le : (a.ratio.value / b.ratio.value).num.natAbs * 10 ^ (a.gap b).toNat ≤ 2 ^ 53)
    (den_le : (a.ratio.value / b.ratio.value).den * 10 ^ (-a.gap b).toNat ≤ 2 ^ 53) :
    NearestEven (a.factorTo b) (a.exactFactor b) ∧
      ∀ x : Float, value x = a.exactFactor b → a.factorTo b = x := by
  have num_small := (Nat.le_mul_of_pos_right _ (by positivity)).trans num_le
  have den_small := (Nat.le_mul_of_pos_right _ (by positivity)).trans den_le
  -- the quotient fits, so it is reduced before any rounding
  obtain ⟨quotient, same⟩ := Ratio.exists_value_eq_iff.2
    (show Ratio.Representable (a.ratio.value / b.ratio.value) from ⟨by omega, by omega⟩)
  have division : a.ratio.div? b.ratio = some quotient := Ratio.div?_eq_some_iff.2 ⟨hb, same⟩
  have regular : quotient.value ≠ 0 := same ▸ div_ne_zero ha hb
  rw [← same] at num_le den_le num_small den_small
  have num_ne := Ratio.num_ne_zero regular
  have factor : a.factorTo b =
      scaleByTen (Float.ofInt quotient.num) (Float.ofInt quotient.den) (a.gap b) := by
    rw [factorTo_eq_scaleByTen, Ratio.quotientParts_of_some division]
  have rounded := rounded_scaleByTen (denotes_ofInt num_ne num_small)
    (denotes_ofInt quotient.den_ne_zero den_small) num_le den_le
  have exact : signed (signOf quotient.num * signOf quotient.den)
      ((quotient.num.natAbs * 10 ^ (a.gap b).toNat : Nat) /
        ((quotient.den : Int).natAbs * 10 ^ (-a.gap b).toNat : Nat)) = a.exactFactor b := by
    rw [natCast_scaled_div, natAbs_eq_signed, natAbs_eq_signed, signed_mul_div, exactFactor, ← same,
      quotient.value_eq_div]
    rfl
  have num_pos := Int.natAbs_pos.2 num_ne
  have den_pos := quotient.den_pos
  obtain ⟨above, below⟩ := natCast_div_range (by positivity) num_le (by positivity) den_le
  rw [factor, ← exact]
  exact ⟨rounded.nearestEven above below, fun x => rounded.eq_of_value_eq above below⟩

/-- An hour is exactly 3600 seconds, and a second the double nearest to a part in 3600. -/
theorem factorTo_nearestEven_hour :
    let hour : Identity :=
      ⟨⟨18, 5, by decide, by decide, by decide, by decide⟩, ⟨3, by decide⟩, .of .time⟩
    let second : Identity := ⟨.one, .zero, .of .time⟩
    hour.factorTo second = 3600 ∧ NearestEven (second.factorTo hour) (1 / 3600) := by
  intro hour second
  have hour_ne : hour.ratio.value ≠ 0 := Ratio.value_ne_zero_iff.2 rfl
  have second_ne : second.ratio.value ≠ 0 := Ratio.value_ne_zero_iff.2 rfl
  have seconds : hour.exactFactor second = 3600 := by
    rw [exactFactor, Ratio.value_eq_div, Ratio.value_eq_div]
    show (10 : ℚ) ^ (3 : Int) * ((18 : Int) / (5 : Nat) / ((1 : Int) / (1 : Nat))) = 3600
    norm_num
  have hours : second.exactFactor hour = 1 / 3600 := by
    rw [exactFactor, Ratio.value_eq_div, Ratio.value_eq_div]
    show (10 : ℚ) ^ (-3 : Int) * ((1 : Int) / (1 : Nat) / ((18 : Int) / (5 : Nat))) = 1 / 3600
    norm_num
  have double : value 3600 = 3600 :=
    (denotes_ofNat (n := 3600) (by norm_num) (by norm_num)).value_eq
  constructor
  · exact (factorTo_nearestEven hour second hour_ne second_ne (by decide +kernel)
      (by decide +kernel)).2 3600 (double.trans seconds.symm)
  · rw [← hours]
    exact (factorTo_nearestEven second hour second_ne hour_ne (by decide +kernel)
      (by decide +kernel)).1

/-! ## Finite factors -/

section Scaling

variable {p q : ℚ} (num : Near x s 3 p) (den : Near y t 3 q)
include num den

/-- A scaled quotient is finite and other than zero if the part with the power of ten is below the
bound, and the other part too. -/
lemma exists_denotes_scaleByTen (one_le_p : 1 ≤ p) (one_le_q : 1 ≤ q)
    (p_le : p * 10 ^ k.toNat ≤ finiteBound) (q_le : q * 10 ^ (-k).toNat ≤ finiteBound) :
    ∃ z, Denotes (scaleByTen x y k) (s * t) z := by
  have one_le_power (n : Nat) : (1 : ℚ) ≤ 10 ^ n := one_le_pow₀ (by norm_num)
  have p_pos : 0 < p := zero_lt_one.trans_le one_le_p
  have q_pos : 0 < q := zero_lt_one.trans_le one_le_q
  unfold scaleByTen
  split
  · exact (num.mul_natPower_ten le_rfl one_le_p p_le).div den (by omega)
      (one_le_mul_of_one_le_of_one_le one_le_p (one_le_power _)) p_le one_le_q
      ((le_mul_of_one_le_right q_pos.le (one_le_power _)).trans q_le)
  · exact num.div (den.mul_natPower_ten le_rfl one_le_q q_le) (by omega) one_le_p
      ((le_mul_of_one_le_right p_pos.le (one_le_power _)).trans p_le)
      (one_le_mul_of_one_le_of_one_le one_le_q (one_le_power _)) q_le

/-- From the bound on, the power of ten takes the numerator to infinity, and the quotient with it. -/
lemma scaleByTen_infinity (nonneg : 0 ≤ k) (large : infiniteBound ≤ p * 10 ^ k.toNat) :
    (scaleByTen x y k).toModel.unpack = .infinity (s * t) := by
  obtain ⟨w, denotes, _⟩ := den
  rw [scaleByTen, if_pos nonneg]
  exact unpack_infinity_div (num.mul_natPower_ten_infinity le_rfl large) denotes

/-- A power of ten that takes the denominator to infinity leaves zero. -/
lemma scaleByTen_zero (negative : k < 0) (large : infiniteBound ≤ q * 10 ^ (-k).toNat) :
    (scaleByTen x y k).toModel.unpack = .zero (s * t) := by
  obtain ⟨v, denotes, _⟩ := num
  rw [scaleByTen, if_neg negative.not_ge]
  exact unpack_div_infinity denotes (den.mul_natPower_ten_infinity le_rfl large)

end Scaling

/-- The part of the exact factor that takes the power of ten: its numerator if the power is not
negative, else its denominator. -/
def scaledPart (a b : Identity) : ℚ :=
  if 0 ≤ a.gap b then (Ratio.exactParts a.ratio b.ratio).1.natAbs * 10 ^ (a.gap b).toNat
  else (Ratio.exactParts a.ratio b.ratio).2.natAbs * 10 ^ (-a.gap b).toNat

/-- The absolute value of the exact factor, with the power of ten on the side where it is taken. -/
lemma abs_exactFactor (a b : Identity) :
    |a.exactFactor b| =
      if 0 ≤ a.gap b then a.scaledPart b / (Ratio.exactParts a.ratio b.ratio).2.natAbs
      else (Ratio.exactParts a.ratio b.ratio).1.natAbs / a.scaledPart b := by
  have parts := natCast_scaled_div (Ratio.exactParts a.ratio b.ratio).1.natAbs
    (Ratio.exactParts a.ratio b.ratio).2.natAbs (a.gap b)
  have exact : |a.exactFactor b| = 10 ^ a.gap b *
      ((Ratio.exactParts a.ratio b.ratio).1.natAbs /
        (Ratio.exactParts a.ratio b.ratio).2.natAbs) := by
    rw [exactFactor, ← Ratio.exactParts_div, abs_mul, abs_div, abs_of_pos (by positivity),
      Nat.cast_natAbs, Nat.cast_natAbs, Int.cast_abs, Int.cast_abs]
  rw [exact, ← parts]
  unfold scaledPart
  split
  · rw [show (-a.gap b).toNat = 0 by omega, pow_zero, Nat.mul_one]
    push_cast
    rfl
  · rw [show (a.gap b).toNat = 0 by omega, pow_zero, Nat.mul_one]
    push_cast
    rfl

section Range

variable (ha : a.ratio.value ≠ 0) (hb : b.ratio.value ≠ 0)
include ha hb

lemma exists_denotes_factorTo (small : a.scaledPart b ≤ finiteBound) :
    ∃ s z, Denotes (a.factorTo b) s z := by
  obtain ⟨num, den⟩ := Ratio.quotientParts_near ha hb
  obtain ⟨num_ne, den_ne⟩ := Ratio.exactParts_ne_zero ha hb
  obtain ⟨num_le, den_le⟩ := Ratio.exactParts_natAbs_le a.ratio b.ratio
  have one_le_num : (1 : ℚ) ≤ (Ratio.exactParts a.ratio b.ratio).1.natAbs := by
    exact_mod_cast Int.natAbs_pos.2 num_ne
  have one_le_den : (1 : ℚ) ≤ (Ratio.exactParts a.ratio b.ratio).2.natAbs := by
    exact_mod_cast Int.natAbs_pos.2 den_ne
  rw [factorTo_eq_scaleByTen]
  refine ⟨_, exists_denotes_scaleByTen num den one_le_num one_le_den ?_ ?_⟩
  · unfold scaledPart at small
    split at small
    · exact small
    · rw [show (a.gap b).toNat = 0 by omega, pow_zero, mul_one]
      exact natCast_le_finiteBound num_le
  · unfold scaledPart at small
    split at small
    · rw [show (-a.gap b).toNat = 0 by omega, pow_zero, mul_one]
      exact natCast_le_finiteBound den_le
    · exact small

lemma factorTo_infinity (large : infiniteBound ≤ a.scaledPart b) (nonneg : 0 ≤ a.gap b) :
    ∃ s, (a.factorTo b).toModel.unpack = .infinity s := by
  obtain ⟨num, den⟩ := Ratio.quotientParts_near ha hb
  rw [scaledPart, if_pos nonneg] at large
  rw [factorTo_eq_scaleByTen]
  exact ⟨_, scaleByTen_infinity num den nonneg large⟩

lemma factorTo_zero (large : infiniteBound ≤ a.scaledPart b) (negative : a.gap b < 0) :
    ∃ s, (a.factorTo b).toModel.unpack = .zero s := by
  obtain ⟨num, den⟩ := Ratio.quotientParts_near ha hb
  rw [scaledPart, if_neg negative.not_ge] at large
  rw [factorTo_eq_scaleByTen]
  exact ⟨_, scaleByTen_zero num den negative large⟩

end Range

/-- Of the two parts of the exact factor, the one that takes the power of ten decides. Below the bound
the factor is finite and other than zero. Above it the factor saturates, to infinity where the part is
the numerator and to zero where it is the denominator, whatever the size of the exact factor. -/
theorem factorTo_finite (a b : Identity) (ha : a.ratio.value ≠ 0) (hb : b.ratio.value ≠ 0) :
    (|a.exactFactor b| =
      if 0 ≤ a.gap b then a.scaledPart b / (Ratio.exactParts a.ratio b.ratio).2.natAbs
      else (Ratio.exactParts a.ratio b.ratio).1.natAbs / a.scaledPart b) ∧
    (a.scaledPart b ≤ finiteBound → (a.factorTo b).isFinite ∧ (a.factorTo b == 0) = false) ∧
    (infiniteBound ≤ a.scaledPart b →
      (0 ≤ a.gap b → (a.factorTo b).isInf) ∧ (a.gap b < 0 → a.factorTo b == 0)) := by
  refine ⟨abs_exactFactor a b, fun small => denotes_iff.1 (exists_denotes_factorTo ha hb small),
    fun large => ⟨?_, ?_⟩⟩
  · intro nonneg
    obtain ⟨s, unpacked⟩ := factorTo_infinity ha hb large nonneg
    exact isInf_of_unpack unpacked
  · intro negative
    obtain ⟨s, unpacked⟩ := factorTo_zero ha hb large negative
    exact beq_zero_of_unpack unpacked

/-- Eighteen digits of its own are enough to take a part beyond the bound at 300 powers of ten. -/
lemma infiniteBound_le_digits : infiniteBound ≤ 1000000000000000000 * 10 ^ 300 := by
  have digits : (10 : ℚ) ^ 309 = 1000000000 * 10 ^ 300 := by
    rw [show 309 = 9 + 300 by rfl, pow_add]
    norm_num
  refine infiniteBound_le_ten_pow.trans ?_
  rw [digits]
  gcongr
  norm_num

/-- Two lengths whose ratios almost agree, 300 powers of ten apart: the factor is infinite, and its
inverse is zero. An hour has a finite factor to a second. -/
theorem factorTo_finite_lengths :
    let high : Identity :=
      ⟨⟨1000000000000000000, 1, by decide, by decide, by decide, by decide⟩, ⟨300, by decide⟩,
        .of .length⟩
    let low : Identity :=
      ⟨⟨999999999999999999, 1, by decide, by decide, by decide, by decide⟩, .zero, .of .length⟩
    let hour : Identity :=
      ⟨⟨18, 5, by decide, by decide, by decide, by decide⟩, ⟨3, by decide⟩, .of .time⟩
    let second : Identity := ⟨.one, .zero, .of .time⟩
    (high.factorTo low).isInf ∧ low.factorTo high == 0 ∧
      (hour.factorTo second).isFinite ∧ (hour.factorTo second == 0) = false := by
  intro high low hour second
  have nonzero {r : Ratio} (h : r.isZero = false) : r.value ≠ 0 := Ratio.value_ne_zero_iff.2 h
  have up : infiniteBound ≤ high.scaledPart low := by
    have parts : Ratio.exactParts high.ratio low.ratio =
        (1000000000000000000, 999999999999999999) := by decide +kernel
    rw [scaledPart, if_pos (by decide), parts]
    exact infiniteBound_le_digits
  have down : infiniteBound ≤ low.scaledPart high := by
    have parts : Ratio.exactParts low.ratio high.ratio =
        (999999999999999999, 1000000000000000000) := by decide +kernel
    rw [scaledPart, if_neg (by decide), parts]
    exact infiniteBound_le_digits
  have small : hour.scaledPart second ≤ finiteBound := by
    have parts : Ratio.exactParts hour.ratio second.ratio = (18, 5) := by decide +kernel
    rw [scaledPart, if_pos (by decide), parts]
    exact_mod_cast natCast_le_finiteBound (n := 18 * 10 ^ 3) (by norm_num)
  exact ⟨((factorTo_finite high low (nonzero rfl) (nonzero rfl)).2.2 up).1 (by decide),
    ((factorTo_finite low high (nonzero rfl) (nonzero rfl)).2.2 down).2 (by decide),
    (factorTo_finite hour second (nonzero rfl) (nonzero rfl)).2.1 small⟩

/-- The exact factor between the two lengths is far from the least normal double and from the greatest
one, and yet the factor is infinite. -/
theorem not_finite_in_range :
    let high : Identity :=
      ⟨⟨1000000000000000000, 1, by decide, by decide, by decide, by decide⟩, ⟨300, by decide⟩,
        .of .length⟩
    let low : Identity :=
      ⟨⟨999999999999999999, 1, by decide, by decide, by decide, by decide⟩, .zero, .of .length⟩
    2 ^ (-1022 : Int) ≤ high.exactFactor low ∧
      high.exactFactor low ≤ (2 ^ 53 - 1) * 2 ^ (971 : Int) ∧
      (high.factorTo low).isFinite = false := by
  intro high low
  have factor : high.exactFactor low =
      10 ^ (300 : Int) * (1000000000000000000 / 999999999999999999) := by
    rw [exactFactor, Ratio.value_eq_div, Ratio.value_eq_div]
    exact congrArg (10 ^ (300 : Int) * ·) (by norm_num [high, low])
  refine ⟨?_, ?_, ?_⟩
  · rw [factor]
    exact normal_le_one.trans
      (one_le_mul_of_one_le_of_one_le (one_le_zpow₀ (by norm_num) (by norm_num)) (by norm_num))
  · have digits : 10 ^ 300 * 10 ≤ 2 ^ 52 * 2 ^ 971 := by decide +kernel
    calc high.exactFactor low ≤ 10 ^ (300 : Int) * 10 := by
          rw [factor]
          gcongr
          norm_num
      _ ≤ 2 ^ 52 * 2 ^ (971 : Int) := by exact_mod_cast digits
      _ ≤ (2 ^ 53 - 1) * 2 ^ (971 : Int) :=
          mul_le_mul_of_nonneg_right (by norm_num) (two_zpow_pos 971).le
  · have parts : Ratio.exactParts high.ratio low.ratio =
        (1000000000000000000, 999999999999999999) := by decide +kernel
    have large : infiniteBound ≤ high.scaledPart low := by
      rw [scaledPart, if_pos (by decide), parts]
      exact infiniteBound_le_digits
    obtain ⟨s, unpacked⟩ := factorTo_infinity (Ratio.value_ne_zero_iff.2 rfl)
      (Ratio.value_ne_zero_iff.2 rfl) large (by decide)
    exact not_isFinite_of_unpack unpacked

end Identity

end Metrology
