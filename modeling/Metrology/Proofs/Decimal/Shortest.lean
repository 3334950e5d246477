import Mathlib
import Metrology.Decimal.Shortest
import Metrology.Proofs.Magnitude.Rounding

/-!
# Shortest decimals round back

The decimal that is chosen for a double rounds to that double (`Binary.shortest_rounds`). Every
decimal that the search accepts has been compared with the halfway points to the neighbours, and
these comparisons of naturals are comparisons of the exact values (`compareScaled_eq`). Should no
grid have such a decimal, the exact value is taken, which rounds to itself.
-/

namespace Metrology.Decimal

open Magnitude (IsBinary64 RoundsTo)
open Float.Model.UnpackedFloat (Sign)

/-- The exact value of a decimal. -/
def Scaled.value (d : Scaled) : ℚ :=
  d.digits * 10 ^ d.exponent

/-- Comparing products of powers compares the exact values. -/
lemma compareScaled_eq (a : Nat) (i : Int) (n : Nat) (j : Int) :
    compareScaled a i n j = compare ((a : ℚ) * 10 ^ i) (n * 2 ^ j) := by
  have ten : (10 : ℚ) ^ i * 10 ^ (-i).toNat = 10 ^ i.toNat := by
    rw [← zpow_natCast, ← zpow_natCast, ← zpow_add₀ (by norm_num)]
    congr 1
    omega
  have two : (2 : ℚ) ^ j * 2 ^ (-j).toNat = 2 ^ j.toNat := by
    rw [← zpow_natCast, ← zpow_natCast, ← zpow_add₀ two_ne_zero]
    congr 1
    omega
  have scale : (0 : ℚ) < 10 ^ (-i).toNat * 2 ^ (-j).toNat := by positivity
  have left : ((a * tens i.toNat * twos (-j).toNat : Nat) : ℚ) =
      a * 10 ^ i * (10 ^ (-i).toNat * 2 ^ (-j).toNat) := by
    simp only [tens, twos, Nat.pow_eq]
    push_cast
    rw [← ten]
    ring
  have right : ((n * twos j.toNat * tens (-i).toNat : Nat) : ℚ) =
      n * 2 ^ j * (10 ^ (-i).toNat * 2 ^ (-j).toNat) := by
    simp only [tens, twos, Nat.pow_eq]
    push_cast
    rw [← two]
    ring
  rw [compareScaled]
  generalize a * tens i.toNat * twos (-j).toNat = n₁ at left
  generalize n * twos j.toNat * tens (-i).toNat = n₂ at right
  rcases lt_trichotomy ((a : ℚ) * 10 ^ i) (n * 2 ^ j) with lt | eq | gt
  · have less : (n₁ : ℚ) < n₂ := by
      rw [left, right]
      gcongr
    rw [compare_lt_iff_lt.2 lt, compare_lt_iff_lt]
    exact Nat.cast_lt.1 less
  · have same : (n₁ : ℚ) = n₂ := by rw [left, right, eq]
    rw [compare_eq_iff_eq.2 eq, compare_eq_iff_eq]
    exact Nat.cast_inj.1 same
  · have greater : (n₂ : ℚ) < n₁ := by
      rw [left, right]
      gcongr
    rw [compare_gt_iff_gt.2 gt, compare_gt_iff_gt]
    exact Nat.cast_lt.1 greater

namespace Binary

/-- Whether the fields of a value are those of a double other than zero. -/
structure Proper (b : Binary) : Prop where
  finite : IsBinary64 b.mantissa b.exponent
  narrow : b.narrowBelow ↔ b.mantissa = 2 ^ 52 ∧ -1074 < b.exponent

section Fields

variable (x : Float)

/-- The fields of the word of a double. -/
def storedExponent : Nat := (Magnitude.exponentField x.toModel.toBits.toBitVec).toNat

def storedFraction : Nat := (Magnitude.mantissaField x.toModel.toBits.toBitVec).toNat

lemma ofFloat_eq :
    ofFloat x =
      if storedExponent x = 0 then ⟨storedFraction x, -1074, false⟩
      else
        ⟨2 ^ 52 + storedFraction x, storedExponent x - 1075,
          storedFraction x == 0 && storedExponent x != 1⟩ := by
  rw [storedExponent, storedFraction, Magnitude.toNat_exponentField, Magnitude.toNat_mantissaField]
  rfl

end Fields

/-- The fields of a double other than zero are its parts. -/
lemma ofFloat_of_unpack {x : Float} {s : Sign} {m : Nat} {e : Int} {pos : 0 < m}
    (unpacked : x.toModel.unpack = .finite s m e pos) :
    (ofFloat x).mantissa = m ∧ (ofFloat x).exponent = e ∧ (ofFloat x).Proper := by
  obtain ⟨_, spells⟩ := Magnitude.spells_of_unpack unpacked
  have finite := spells.isBinary64
  have bound : storedFraction x < 2 ^ 52 := BitVec.isLt _
  have spells : (storedExponent x = 0 ∧ 0 < m ∧ m = storedFraction x ∧ e = -1074) ∨
      (0 < storedExponent x ∧ storedExponent x < 2047 ∧ m = 2 ^ 52 + storedFraction x ∧
        e = storedExponent x - 1075) := spells
  rw [ofFloat_eq]
  rcases spells with ⟨least, _, rfl, rfl⟩ | ⟨positive, _, rfl, rfl⟩
  · rw [if_pos least]
    exact ⟨rfl, rfl, finite, by simp⟩
  · rw [if_neg positive.ne']
    refine ⟨rfl, rfl, finite, ?_⟩
    simp only [Bool.and_eq_true, beq_iff_eq, bne_iff_ne]
    omega

lemma mantissa_ofFloat_of_unpack {x : Float} {s : Sign} (unpacked : x.toModel.unpack = .zero s) :
    (ofFloat x).mantissa = 0 := by
  obtain ⟨_, exponent, fraction⟩ := Magnitude.zero_of_unpack unpacked
  have least : storedExponent x = 0 := congrArg BitVec.toNat exponent
  rw [ofFloat_eq, if_pos least]
  exact congrArg BitVec.toNat fraction

variable {b : Binary} {d : Scaled} {tie : Tie} {k : Int}

/-- A decimal that reads back rounds to the value. -/
lemma rounds_of_readsBack (proper : b.Proper) (reads : b.readsBack d) :
    RoundsTo b.mantissa b.exponent d.value := by
  have quarter : (2 : ℚ) ^ (b.exponent - 2) = 2 ^ b.exponent / 4 := by
    rw [zpow_sub₀ two_ne_zero]
    norm_num
  have low : ((if b.narrowBelow then 4 * b.mantissa - 1 else 4 * b.mantissa - 2 : Nat) : ℚ) *
      2 ^ (b.exponent - 2) =
        (b.mantissa - if b.mantissa = 2 ^ 52 ∧ -1074 < b.exponent then 1 / 4 else 1 / 2) *
          2 ^ b.exponent := by
    have pos := proper.finite.pos
    by_cases narrow : b.narrowBelow = true
    · rw [if_pos narrow, if_pos (proper.narrow.1 narrow), Nat.cast_sub (by omega), quarter]
      push_cast
      ring
    · rw [if_neg narrow, if_neg (mt proper.narrow.2 narrow), Nat.cast_sub (by omega), quarter]
      push_cast
      ring
  have high : ((4 * b.mantissa + 2 : Nat) : ℚ) * 2 ^ (b.exponent - 2) =
      (b.mantissa + 1 / 2) * 2 ^ b.exponent := by
    rw [quarter]
    push_cast
    ring
  simp only [readsBack, compareScaled_eq, low, high, Bool.and_eq_true, Bool.or_eq_true, beq_iff_eq,
    compare_gt_iff_gt, compare_eq_iff_eq, compare_lt_iff_lt] at reads
  obtain ⟨above_low, below_high⟩ := reads
  refine ⟨?_, ?_, fun odd => ?_⟩
  · rcases above_low with lt | ⟨_, eq⟩
    · exact lt.le
    · exact eq.ge
  · rcases below_high with lt | ⟨_, eq⟩
    · exact lt.le
    · exact eq.le
  · -- an odd mantissa is no power of two
    have wide : ¬(b.mantissa = 2 ^ 52 ∧ -1074 < b.exponent) := by
      rintro ⟨power, _⟩
      omega
    rw [if_neg wide] at above_low
    exact ⟨above_low.resolve_right fun even => by omega,
      below_high.resolve_right fun even => by omega⟩

lemma readsBack_of_onGrid? (found : b.onGrid? tie k = some d) : b.readsBack d := by
  unfold onGrid? at found
  simp only [] at found
  split at found
  case h_1 lower upper =>
    cases found
    -- both neighbours on the grid read back, and the nearer one is one of them
    have neighbour : b.nearer tie k (b.below k) = b.below k ∨
        b.nearer tie k (b.below k) = b.below k + 1 := by
      unfold nearer
      split
      · exact .inl rfl
      · exact .inr rfl
      · cases tie with
        | upward => exact .inr rfl
        | toEven =>
          show b.below k + b.below k % 2 = _ ∨ b.below k + b.below k % 2 = _
          omega
    rcases neighbour with same | next
    · rw [same]
      exact lower
    · rw [next]
      exact upper
  case h_2 lower upper =>
    cases found
    exact lower
  case h_3 lower upper =>
    cases found
    exact upper
  case h_4 => cases found

/-- The exact value is on the grid of its own exponent. -/
lemma value_below (b : Binary) :
    (⟨b.below (min 0 b.exponent), min 0 b.exponent⟩ : Scaled).value =
      b.mantissa * 2 ^ b.exponent := by
  unfold Scaled.value below fraction
  simp only [tens, twos, Nat.pow_eq]
  rcases le_or_gt 0 b.exponent with whole | part
  · have power : (2 : ℚ) ^ b.exponent = 2 ^ b.exponent.toNat := by
      rw [← zpow_natCast, Int.toNat_of_nonneg whole]
    rw [min_eq_left whole, Int.toNat_of_nonpos (show -b.exponent ≤ 0 by omega), power]
    simp
  · obtain ⟨n, exponent⟩ : ∃ n : Nat, b.exponent = -n := ⟨(-b.exponent).toNat, by omega⟩
    rw [min_eq_right part.le, exponent]
    simp only [neg_neg, Int.toNat_natCast, Int.toNat_neg_natCast, pow_zero, mul_one]
    -- ten is five times two, and the twos cancel
    have digits : b.mantissa * 10 ^ n / 2 ^ n = b.mantissa * 5 ^ n := by
      rw [show 10 = 5 * 2 by rfl, mul_pow, ← mul_assoc]
      exact Nat.mul_div_cancel _ (Nat.two_pow_pos n)
    rw [digits, zpow_neg, zpow_neg, zpow_natCast, zpow_natCast, show (10 : ℚ) = 5 * 2 by norm_num,
      mul_pow]
    push_cast
    field_simp

lemma search_rounds (proper : b.Proper) (tie : Tie) (n : Nat) (k : Int) :
    RoundsTo b.mantissa b.exponent (b.search tie n k).value := by
  induction n generalizing k with
  | zero =>
    rw [search, value_below]
    exact .self _ _
  | succ n ih =>
    rw [search]
    cases found : b.onGrid? tie k with
    | none => exact ih (k - 1)
    | some d => exact rounds_of_readsBack proper (readsBack_of_onGrid? found)

/-- The shortest decimal of a double rounds to the double. -/
theorem shortest_rounds (proper : b.Proper) (tie : Tie) :
    RoundsTo b.mantissa b.exponent (b.shortest tie).value := by
  rw [shortest, if_neg proper.finite.pos.ne']
  exact search_rounds proper tie 17 b.decimalExponent

end Binary

end Metrology.Decimal
