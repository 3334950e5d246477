import Mathlib
import Metrology.Proofs.Identity.Conversion

/-!
# Spellings of one scale

The ratio and the power of ten of an identity can be traded for each other: ten times one and once
ten to the first are the same scale. Main statement: between two spellings of a scale the conversion
factor is one, so that a conversion leaves every magnitude as it is, a NaN and the sign of zero
included; and conversion to the own unit, or to a unit with the same identity, does nothing.

The quotient of the two ratios is then a power of ten by itself, on the side of the fraction that the
power of ten of the conversion does not go to (`Ratio.parts_of_value_eq_ten_zpow`). Both sides become
the same number, and as a ratio it is small enough to be a double.
-/

namespace Metrology

open Magnitude Float.Model.UnpackedFloat

/-! ## The factor one -/

namespace Magnitude

variable {x y : Float} {s : Sign} {v : ℚ}

lemma sign_mul_self (s : Sign) : s * s = .positive := by
  cases s <;> rfl

/-- A double over itself is one. -/
lemma Denotes.div_eq_one (left : Denotes x s v) (right : Denotes y s v) : x / y = 1 := by
  have rounded := left.div right
  rw [sign_mul_self, div_self left.pos.ne'] at rounded
  exact rounded.eq_of_value_eq underflowLimit_lt_one one_lt_overflowLimit denotes_one.value_eq

/-- The factor one changes no double, whatever it is. -/
theorem mul_one_eq_self (x : Float) : x * 1 = x := by
  obtain ⟨m, e, finite, one, _⟩ := denotes_one
  cases unpacked : x.toModel.unpack with
  | notANumber =>
    have outcome : (x * 1).toModel = .pack .notANumber := toModel_mul unpacked one
    exact congrArg Float.ofModel (outcome.trans (pack_of_unpack_notANumber unpacked))
  | infinity s =>
    have outcome : (x * 1).toModel = .pack (.infinity (s * .positive)) := toModel_mul unpacked one
    rw [mul_positive] at outcome
    exact congrArg Float.ofModel (outcome.trans (pack_of_unpack_infinity unpacked))
  | zero s =>
    have outcome : (x * 1).toModel = .pack (.zero (s * .positive)) := toModel_mul unpacked one
    rw [mul_positive] at outcome
    exact congrArg Float.ofModel (outcome.trans (pack_of_unpack_zero unpacked))
  | finite s m e pos =>
    have binary64 := (spells_of_unpack unpacked).2.isBinary64
    have itself := RoundsTo.self m e
    have product := (denotes_of_unpack unpacked).mul denotes_one
    rw [mul_positive, mul_one] at product
    exact product.eq_of_value_eq (itself.underflowLimit_lt binary64.canonical)
      (itself.lt_overflowLimit binary64) (denotes_of_unpack unpacked).value_eq

end Magnitude

/-! ## Ratios that are powers of ten -/

namespace Ratio

variable {r : Ratio} {k : Int}

/-- A ratio that is a power of ten has it in one of its parts, and one in the other. -/
lemma parts_of_value_eq_ten_zpow (power : r.value = 10 ^ k) :
    r.num = (10 ^ k.toNat : Nat) ∧ r.den = 10 ^ (-k).toNat := by
  have fraction : (10 : ℚ) ^ k =
      ((10 ^ k.toNat : Nat) : Int) / ((10 ^ (-k).toNat : Nat) : Int) := by
    push_cast
    rw [← zpow_natCast, ← zpow_natCast, ← zpow_sub₀ (by norm_num)]
    congr 1
    omega
  have positive : (0 : Int) < (10 ^ (-k).toNat : Nat) := by positivity
  have coprime :
      ((10 ^ k.toNat : Nat) : Int).natAbs.Coprime ((10 ^ (-k).toNat : Nat) : Int).natAbs := by
    rcases le_total 0 k with nonneg | nonpos
    · rw [show (-k).toNat = 0 by omega]
      exact Nat.coprime_one_right _
    · rw [show k.toNat = 0 by omega]
      exact Nat.coprime_one_left _
  obtain ⟨num, den⟩ := value_eq_iff.1 (power.trans fraction)
  rw [Rat.num_div_eq_of_coprime positive coprime] at num
  have den := (congrArg Nat.cast den).trans (Rat.den_div_eq_of_coprime positive coprime)
  exact ⟨num, by exact_mod_cast den⟩

/-- The power is small: words hold no more than 18 zeros. -/
lemma natAbs_le_of_value_eq_ten_zpow (power : r.value = 10 ^ k) : k.natAbs ≤ 18 := by
  obtain ⟨num, den⟩ := parts_of_value_eq_ten_zpow power
  have num_range := r.num_range
  have den_lt := r.den_lt
  by_contra large
  rcases le_total 0 k with nonneg | nonpos
  · have beyond : 10 ^ 19 ≤ 10 ^ k.toNat := Nat.pow_le_pow_right (by norm_num) (by omega)
    omega
  · have beyond : 10 ^ 19 ≤ 10 ^ (-k).toNat := Nat.pow_le_pow_right (by norm_num) (by omega)
    omega

end Ratio

/-! ## Factors between spellings -/

namespace Identity

variable {x y : Float} {s : Sign} {k : Int} {a b : Identity}

/-- The number of coherent units that a unit is. -/
def scale (a : Identity) : ℚ :=
  a.ratio.value * 10 ^ a.exponent.toInt

/-- A power of ten as a natural is exact as a double. -/
lemma denotes_ofInt_ten_pow {n : Nat} (le : n ≤ 22) :
    Denotes (Float.ofInt (10 ^ n : Nat)) .positive (10 ^ n) := by
  have size : ((10 ^ n : Nat) : Int).natAbs ≤ 2 ^ 128 :=
    (Nat.pow_le_pow_right (by norm_num) le).trans (by norm_num)
  have rounded := rounded_ofInt (n := (10 ^ n : Nat)) (by positivity) (natCast_lt_overflowLimit size)
  have value : ((10 ^ n : Nat) : ℚ) = 10 ^ n := by push_cast; rfl
  rw [signOf_of_nonneg (by positivity), Int.natAbs_natCast, value] at rounded
  exact rounded.exact_ten_pow le

/-- A power of ten that stands on one side is taken by the other side, without a rounding. -/
lemma scaleByTen_eq_one (num : Denotes x .positive (10 ^ (-k).toNat))
    (den : Denotes y .positive (10 ^ k.toNat)) (le : k.natAbs ≤ 22) : scaleByTen x y k = 1 := by
  unfold scaleByTen
  split
  · have product := num.mul (denotes_natPower_ten (k := k.toNat) (by omega))
    rw [show (-k).toNat = 0 by omega, pow_zero, one_mul, mul_positive] at product
    exact (product.exact_ten_pow (by omega)).div_eq_one den
  · have product := den.mul (denotes_natPower_ten (k := (-k).toNat) (by omega))
    rw [show k.toNat = 0 by omega, pow_zero, one_mul, mul_positive] at product
    exact num.div_eq_one (product.exact_ten_pow (by omega))

/-- Two ratios of one scale are apart by the power of ten that the exponents make up for. -/
lemma value_div_of_scale_eq (hb : b.ratio.value ≠ 0) (same : a.scale = b.scale) :
    a.ratio.value / b.ratio.value = 10 ^ (-a.gap b) := by
  have power (n : Int) : (10 : ℚ) ^ n ≠ 0 := zpow_ne_zero n (by norm_num)
  rw [div_eq_iff hb, gap, neg_sub, zpow_sub₀ (by norm_num), div_mul_eq_mul_div,
    eq_div_iff (power _), mul_comm (10 ^ _)]
  exact same

lemma factorTo_eq_one (hb : b.ratio.value ≠ 0) (same : a.scale = b.scale)
    (fits : Ratio.Representable (a.ratio.value / b.ratio.value)) : a.factorTo b = 1 := by
  obtain ⟨quotient, denotes⟩ := Ratio.exists_value_eq_iff.2 fits
  have division : a.ratio.div? b.ratio = some quotient := Ratio.div?_eq_some_iff.2 ⟨hb, denotes⟩
  have power : quotient.value = 10 ^ (-a.gap b) := denotes.trans (value_div_of_scale_eq hb same)
  obtain ⟨num, den⟩ := Ratio.parts_of_value_eq_ten_zpow power
  have small := Ratio.natAbs_le_of_value_eq_ten_zpow power
  rw [neg_neg] at den
  rw [factorTo_eq_scaleByTen, Ratio.quotientParts_of_some division, num, den]
  exact scaleByTen_eq_one (denotes_ofInt_ten_pow (by omega)) (denotes_ofInt_ten_pow (by omega))
    (by omega)

lemma factorTo_self (regular : a.ratio.value ≠ 0) : a.factorTo a = 1 := by
  refine factorTo_eq_one regular rfl ?_
  rw [div_self regular]
  exact Ratio.one.value_representable

/-- Between two spellings of one scale the factor is one if the quotient of the ratios is a ratio, and
then a conversion keeps the magnitude, whatever double it is. Conversion to the own unit does nothing,
and where two units have one identity, conversion is respelling. -/
theorem factorTo_sameScale :
    (∀ a b : Identity, b.ratio.value ≠ 0 → a.scale = b.scale →
      Ratio.Representable (a.ratio.value / b.ratio.value) →
      a.factorTo b = 1 ∧
        (a.dimension = b.dimension →
          ∀ x : Float, (⟨x, a⟩ : CheckedQuantity).convert b = .accept ⟨x, b⟩)) ∧
    (∀ q : CheckedQuantity, q.identity.ratio.value ≠ 0 → q.convert q.identity = .accept q) ∧
    ∀ (u v : UnitExpr) (hu : u.Evaluates) (hv : v.Evaluates) (dimension : u.dimension = v.dimension)
      (spelling : u.identity hu = v.identity hv), (u.identity hu).ratio.value ≠ 0 →
      ∀ q : Quantity u, q.convert v hu hv dimension = q.respell v hu hv dimension spelling := by
  refine ⟨?_, ?_, ?_⟩
  · intro a b regular same fits
    have factor := factorTo_eq_one regular same fits
    refine ⟨factor, fun dimension x => ?_⟩
    rw [CheckedQuantity.convert_of_same dimension, factor, mul_one_eq_self]
  · intro q regular
    rw [CheckedQuantity.convert_of_same rfl, factorTo_self regular, mul_one_eq_self]
  · intro u v hu hv dimension spelling regular q
    rw [Quantity.convert, Quantity.respell, ← spelling, factorTo_self regular, mul_one_eq_self]

/-- The least word over one, times ten, and a tenth of the least word, times a hundred: a not-a-number
stays one, and so does the sign of zero, also without a change of spelling. Hours in hours are what
they were. -/
theorem factorTo_sameScale_least :
    let a : Identity :=
      ⟨⟨-9223372036854775808, 1, by decide, by decide, by decide, by decide⟩, .one, .of .time⟩
    let b : Identity :=
      ⟨⟨-4611686018427387904, 5, by decide, by decide, by decide, by decide⟩, ⟨2, by decide⟩,
        .of .time⟩
    (b.ratio.value ≠ 0 ∧ a.scale = b.scale ∧
      Ratio.Representable (a.ratio.value / b.ratio.value)) ∧
      a.factorTo b = 1 ∧
      (⟨nan, a⟩ : CheckedQuantity).convert b = .accept ⟨nan, b⟩ ∧
      (⟨-0, a⟩ : CheckedQuantity).convert b = .accept ⟨-0, b⟩ ∧
      (⟨-0, b⟩ : CheckedQuantity).convert b = .accept ⟨-0, b⟩ ∧
      ∀ q : Quantity .hour, q.convert .hour (by decide) (by decide) rfl = q := by
  intro a b
  have regular : b.ratio.value ≠ 0 := Ratio.value_ne_zero_iff.2 rfl
  have same : a.scale = b.scale := by decide +kernel
  have fits : Ratio.Representable (a.ratio.value / b.ratio.value) := by
    have num : (a.ratio.value / b.ratio.value).num = 10 := by decide +kernel
    have den : (a.ratio.value / b.ratio.value).den = 1 := by decide +kernel
    rw [Ratio.Representable, num, den]
    decide
  have hour : (UnitExpr.hour.identity (by decide)).ratio.value ≠ 0 :=
    Ratio.value_ne_zero_iff.2 (by decide)
  obtain ⟨between, own, typed⟩ := factorTo_sameScale
  obtain ⟨factor, convert⟩ := between a b regular same fits
  exact ⟨⟨regular, same, fits⟩, factor, convert rfl nan, convert rfl (-0), own ⟨-0, b⟩ regular,
    fun q => typed .hour .hour (by decide) (by decide) rfl rfl hour q⟩

end Identity

end Metrology
