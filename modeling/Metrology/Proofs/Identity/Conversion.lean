import Mathlib
import Metrology.CheckedQuantity
import Metrology.Proofs.CheckedQuantity.Outcome
import Metrology.Proofs.Magnitude.PowersOfTen
import Metrology.Proofs.Ratio.Value

/-!
# Conversion factors of any size

What holds of a conversion factor however far the two units are apart. Main statements: the bound on
the power of ten cannot be seen in any factor, and a factor between two scales other than zero has a
value with the sign of their quotient, so conversions lead from numbers to numbers.

Both rest on the powers of ten, which are positive, and infinite long before the bound. A factor has
them on one side of the division only, with a finite number on the other.
-/

namespace Metrology

open Magnitude Float.Model.UnpackedFloat

/-! ## Parts of a factor -/

namespace Ratio

variable {a b : Ratio}

/-- The integers that a factor starts from: the parts of the reduced quotient, or the products of the
parts where it does not fit. -/
def exactParts (a b : Ratio) : Int × Int :=
  match a.div? b with
  | some quotient => (quotient.num, quotient.den)
  | none => (a.num * b.den, a.den * b.num)

section Parts

variable {quotient : Ratio} (accepted : a.div? b = some quotient) (refused : a.div? b = none)

include accepted in
lemma exactParts_of_some : exactParts a b = (quotient.num, (quotient.den : Int)) := by
  rw [exactParts, accepted]

include accepted in
lemma quotientParts_of_some :
    quotientParts a b = (Float.ofInt quotient.num, Float.ofInt quotient.den) := by
  rw [quotientParts, accepted]
  rfl

include refused in
lemma exactParts_of_none : exactParts a b = (a.num * b.den, a.den * b.num) := by
  rw [exactParts, refused]

include refused in
lemma quotientParts_of_none :
    quotientParts a b =
      (Float.ofInt a.num * Float.ofInt b.den, Float.ofInt a.den * Float.ofInt b.num) := by
  rw [quotientParts, refused]
  rfl

end Parts

lemma num_ne_zero (regular : a.value ≠ 0) : a.num ≠ 0 :=
  fun zero => regular (value_eq_zero_iff.2 zero)

lemma den_ne_zero (r : Ratio) : (r.den : Int) ≠ 0 :=
  Int.natCast_ne_zero.2 r.den_pos.ne'

lemma num_natAbs_le (r : Ratio) : r.num.natAbs ≤ 2 ^ 64 := by
  have := r.num_range
  omega

lemma den_natAbs_le (r : Ratio) : (r.den : Int).natAbs ≤ 2 ^ 64 := by
  have := r.den_lt
  omega

/-- The exact parts have the quotient of the ratios. -/
lemma exactParts_div (a b : Ratio) :
    ((exactParts a b).1 / (exactParts a b).2 : ℚ) = a.value / b.value := by
  cases division : a.div? b with
  | some quotient =>
    rw [exactParts_of_some division, ← (div?_eq_some_iff.1 division).2, quotient.value_eq_div]
    rfl
  | none =>
    rw [exactParts_of_none division, a.value_eq_div, b.value_eq_div, div_div_div_eq]
    push_cast
    rfl

/-- The exact parts are products of two words at most. -/
lemma exactParts_natAbs_le (a b : Ratio) :
    (exactParts a b).1.natAbs ≤ 2 ^ 128 ∧ (exactParts a b).2.natAbs ≤ 2 ^ 128 := by
  cases division : a.div? b with
  | some quotient =>
    rw [exactParts_of_some division]
    exact ⟨quotient.num_natAbs_le.trans (by norm_num), quotient.den_natAbs_le.trans (by norm_num)⟩
  | none =>
    rw [exactParts_of_none division, Int.natAbs_mul, Int.natAbs_mul]
    exact ⟨(Nat.mul_le_mul a.num_natAbs_le b.den_natAbs_le).trans (by norm_num),
      (Nat.mul_le_mul a.den_natAbs_le b.num_natAbs_le).trans (by norm_num)⟩

section Regular

variable (ha : a.value ≠ 0) (hb : b.value ≠ 0)
include ha hb

lemma exactParts_ne_zero : (exactParts a b).1 ≠ 0 ∧ (exactParts a b).2 ≠ 0 := by
  have quotient_ne : ((exactParts a b).1 / (exactParts a b).2 : ℚ) ≠ 0 := by
    rw [exactParts_div]
    exact div_ne_zero ha hb
  obtain ⟨num, den⟩ := div_ne_zero_iff.1 quotient_ne
  exact ⟨Int.cast_ne_zero.1 num, Int.cast_ne_zero.1 den⟩

/-- Either part of a factor is the exact one, with three roundings at most. -/
lemma quotientParts_near :
    Near (quotientParts a b).1 (signOf (exactParts a b).1) 3 (exactParts a b).1.natAbs ∧
      Near (quotientParts a b).2 (signOf (exactParts a b).2) 3 (exactParts a b).2.natAbs := by
  cases division : a.div? b with
  | some quotient =>
    have regular : quotient.value ≠ 0 := by
      rw [(div?_eq_some_iff.1 division).2]
      exact div_ne_zero ha hb
    rw [exactParts_of_some division, quotientParts_of_some division]
    exact ⟨(near_ofInt (num_ne_zero regular) quotient.num_natAbs_le).mono (by norm_num),
      (near_ofInt quotient.den_ne_zero quotient.den_natAbs_le).mono (by norm_num)⟩
  | none =>
    rw [exactParts_of_none division, quotientParts_of_none division]
    exact ⟨near_mul_ofInt (num_ne_zero ha) b.den_ne_zero a.num_natAbs_le b.den_natAbs_le,
      near_mul_ofInt a.den_ne_zero (num_ne_zero hb) a.den_natAbs_le b.num_natAbs_le⟩

/-- The signs of the parts multiply to the sign of the quotient. -/
lemma sign_exactParts :
    signOf (exactParts a b).1 * signOf (exactParts a b).2 = .negative ↔
      Xor (a.value < 0) (b.value < 0) := by
  obtain ⟨num, den⟩ := exactParts_ne_zero ha hb
  have ha_pos : 0 < a.value ↔ ¬a.value < 0 := ⟨lt_asymm, (lt_or_gt_of_ne ha).resolve_left⟩
  have hb_pos : 0 < b.value ↔ ¬b.value < 0 := ⟨lt_asymm, (lt_or_gt_of_ne hb).resolve_left⟩
  rw [← signOf_mul num den, signOf_eq_negative_iff, ← Int.cast_lt_zero (R := ℚ), Int.cast_mul,
    mul_neg_iff, ← div_neg_iff, exactParts_div, div_neg_iff, ha_pos, hb_pos, Xor]
  tauto

end Regular

end Ratio

/-! ## Powers of ten -/

namespace Identity

variable {x y : Float} {s t : Sign} {v w : ℚ}

/-- Scaling a quotient of finite numbers keeps its sign. -/
lemma hasSign_scaleByTen (num : Denotes x s v) (den : Denotes y t w) (k : Int) :
    HasSign (scaleByTen x y k) (s * t) := by
  unfold scaleByTen
  split
  · have scaled := num.mul_hasSign (hasSign_natPower_ten k.toNat)
    rw [mul_positive] at scaled
    exact scaled.div den
  · have scaled := den.mul_hasSign (hasSign_natPower_ten (-k).toNat)
    rw [mul_positive] at scaled
    exact num.div_hasSign scaled

/-- Beyond `10 ^ 308` all powers of ten are the same. -/
lemma natPower_ten_eq {j k : Nat} (hj : 308 < j) (hk : 308 < k) :
    natPower 10 j = natPower 10 k := by
  have same : (natPower 10 j).toModel = (natPower 10 k).toModel := by
    rw [← pack_of_unpack_infinity (natPower_ten_infinity hj),
      pack_of_unpack_infinity (natPower_ten_infinity hk)]
  exact congrArg Float.ofModel same

/-- The bound on a power of ten changes nothing. -/
lemma scaleByTen_clamp (x y : Float) (k : Int) :
    scaleByTen x y (max (-maxShift) (min maxShift k)) = scaleByTen x y k := by
  have bound : maxShift = 400 := rfl
  rw [bound]
  rcases lt_or_ge k (-400) with low | least
  · have least : natPower 10 400 = natPower 10 (-k).toNat :=
      natPower_ten_eq (by norm_num) (by omega)
    rw [show max (-400) (min 400 k) = -400 by omega, scaleByTen, scaleByTen,
      if_neg (by norm_num), if_neg (by omega), ← least]
    rfl
  · rcases lt_or_ge 400 k with high | greatest
    · have greatest : natPower 10 400 = natPower 10 k.toNat :=
        natPower_ten_eq (by norm_num) (by omega)
      rw [show max (-400) (min 400 k) = 400 by omega, scaleByTen, scaleByTen,
        if_pos (by norm_num), if_pos (by omega), ← greatest]
      rfl
    · rw [show max (-400) (min 400 k) = k by omega]

/-- The power of ten between two identities, without a bound. -/
def gap (a b : Identity) : Int :=
  a.exponent.toInt - b.exponent.toInt

lemma factorTo_eq_scaleByTen (a b : Identity) :
    a.factorTo b =
      scaleByTen (a.ratio.quotientParts b.ratio).1 (a.ratio.quotientParts b.ratio).2 (a.gap b) :=
  scaleByTen_clamp _ _ _

/-- The factor with the whole power of ten, by as many products as its exponent says. -/
def fullFactorTo (a b : Identity) : Float :=
  let (num, den) := a.ratio.quotientParts b.ratio
  if 0 ≤ a.gap b then num * Nat.repeat (· * 10) (a.gap b).toNat 1 / den
  else num / (den * Nat.repeat (· * 10) (-a.gap b).toNat 1)

/-- The bound on the power of ten cannot be seen: every factor is the one with the whole power, also
where a ratio is zero or negative and where the gap between the exponents does not fit a word. -/
theorem factorTo_eq_fullFactorTo (a b : Identity) : a.factorTo b = a.fullFactorTo b := by
  rw [factorTo_eq_scaleByTen, scaleByTen, natPower, natPower, iterate_eq, iterate_eq]
  rfl

/-! ## Signs -/

/-- A factor has a value, and its sign is that of its exact parts. -/
lemma hasSign_factorTo {a b : Identity} (ha : a.ratio.value ≠ 0) (hb : b.ratio.value ≠ 0) :
    HasSign (a.factorTo b)
      (signOf (Ratio.exactParts a.ratio b.ratio).1 *
        signOf (Ratio.exactParts a.ratio b.ratio).2) := by
  obtain ⟨⟨v, num, _⟩, ⟨w, den, _⟩⟩ := Ratio.quotientParts_near ha hb
  rw [factorTo_eq_scaleByTen]
  exact hasSign_scaleByTen num den (a.gap b)

/-- Between two scales other than zero, a conversion factor is a number, and its sign bit is set
exactly if one of the two scales is negative. So every conversion of a finite magnitude other than
zero leads to a number. -/
theorem factorTo_sign (a b : Identity) (ha : a.ratio.value ≠ 0) (hb : b.ratio.value ≠ 0) :
    (a.factorTo b).isNaN = false ∧
    (isNegative (a.factorTo b) ↔ Xor (a.ratio.value < 0) (b.ratio.value < 0)) ∧
    ∀ x : Float, x.isFinite → (x == 0) = false → a.dimension = b.dimension →
      ∃ q, (⟨x, a⟩ : CheckedQuantity).convert b = .accept q ∧ q.identity = b ∧
        q.magnitude.isNaN = false := by
  have sign := hasSign_factorTo ha hb
  refine ⟨sign.isNaN, sign.isNegative_iff.trans (Ratio.sign_exactParts ha hb), ?_⟩
  intro x finite nonzero same
  obtain ⟨s, v, denotes⟩ := denotes_iff.2 ⟨finite, nonzero⟩
  exact ⟨_, CheckedQuantity.convert_of_same same, rfl, (denotes.mul_hasSign sign).isNaN⟩

/-- The widest gap with one negative scale: the factor is negative infinity, its inverse negative
zero. -/
theorem factorTo_sign_widest :
    let a : Identity :=
      ⟨⟨-18, 5, by decide, by decide, by decide, by decide⟩, ⟨2147483647, by decide⟩, .of .time⟩
    let b : Identity := ⟨.one, ⟨-2147483648, by decide⟩, .of .time⟩
    ((a.factorTo b).isNaN = false ∧ isNegative (a.factorTo b)) ∧
      ((b.factorTo a).isNaN = false ∧ isNegative (b.factorTo a)) ∧
      ∃ q, (⟨2, a⟩ : CheckedQuantity).convert b = .accept q ∧ q.identity = b ∧
        q.magnitude.isNaN = false := by
  intro a b
  have negative : a.ratio.value < 0 := Rat.num_neg.1 (by decide)
  have positive : 0 < b.ratio.value := Rat.num_pos.1 (by decide)
  obtain ⟨number, sign, convert⟩ := factorTo_sign a b negative.ne positive.ne'
  obtain ⟨number', sign', _⟩ := factorTo_sign b a positive.ne' negative.ne
  exact ⟨⟨number, sign.2 (.inl ⟨negative, positive.not_gt⟩)⟩,
    ⟨number', sign'.2 (.inr ⟨negative, positive.not_gt⟩)⟩,
    convert 2 (by decide +kernel) (by decide +kernel) rfl⟩

end Identity

end Metrology
