import Mathlib
import Metrology.Proofs.Magnitude.Accuracy

/-!
# Powers of ten

The powers of ten as doubles, each formed from the one before by a product. Main statements: they are
finite up to `10 ^ 308`, with one rounding at most for each factor, and infinite after it
(`near_natPower_ten`, `natPower_ten_infinity`); those up to `10 ^ 22` are exact
(`denotes_natPower_ten`). The same holds of a product with a power of ten, with the bound on the
product.
-/

namespace Metrology.Magnitude

open Float.Model.UnpackedFloat

variable {x : Float} {s : Sign} {r : ℚ} {j k n : Nat}

lemma denotes_one : Denotes 1 .positive 1 := by
  have exact : Denotes 1 .positive (1 : Nat) := denotes_ofNat (n := 1) (by norm_num) (by norm_num)
  rwa [Nat.cast_one] at exact

lemma denotes_ten : Denotes 10 .positive 10 :=
  denotes_ofNat (n := 10) (by norm_num) (by norm_num)

lemma natPower_succ (x : Float) (n : Nat) : natPower x (n + 1) = natPower x n * x := by
  simp only [natPower, iterate_eq]
  rfl

lemma ten_pow_le_finiteBound (le : k ≤ 308) : (10 : ℚ) ^ k ≤ finiteBound := by
  have greatest : 10 ^ 308 ≤ 3 * 2 ^ 52 * 2 ^ 970 := by decide +kernel
  calc (10 : ℚ) ^ k ≤ 10 ^ 308 := pow_le_pow_right₀ (by norm_num) le
    _ ≤ 3 * 2 ^ 52 * 2 ^ (970 : Int) := by exact_mod_cast greatest
    _ ≤ (1 - 1 / 2 ^ 43) * (2 ^ 54 - 1) * 2 ^ (970 : Int) :=
        mul_le_mul_of_nonneg_right (by norm_num) (two_zpow_pos 970).le
    _ = finiteBound := finiteBound_eq.symm

lemma infiniteBound_le_ten_pow : infiniteBound ≤ 10 ^ 309 := by
  have least : 2 ^ 55 * 2 ^ 970 ≤ 10 ^ 309 := by decide +kernel
  calc infiniteBound = (1 + 1 / 2 ^ 43) * (2 ^ 54 - 1) * 2 ^ (970 : Int) := by
        rw [infiniteBound, overflowLimit_eq, mul_assoc]
    _ ≤ 2 ^ 55 * 2 ^ (970 : Int) :=
        mul_le_mul_of_nonneg_right (by norm_num) (two_zpow_pos 970).le
    _ ≤ 10 ^ 309 := by exact_mod_cast least

/-- Every power of ten up to `10 ^ 308` is finite, with one rounding at most for each factor. -/
theorem near_natPower_ten (le : k ≤ 308) : Near (natPower 10 k) .positive k (10 ^ k) := by
  induction k with
  | zero => exact denotes_one.near
  | succ k ih =>
    have near := ih (by omega)
    have bound := ten_pow_le_finiteBound le
    rw [natPower_succ]
    rw [pow_succ] at bound ⊢
    have one_le : (1 : ℚ) ≤ 10 ^ k * 10 := by
      rw [← pow_succ]
      exact one_le_pow₀ (by norm_num)
    exact near.mul denotes_ten.near (by omega) one_le bound

/-- From `10 ^ 309` on there is no finite power of ten. -/
theorem natPower_ten_infinity (lt : 308 < k) :
    (natPower 10 k).toModel.unpack = .infinity .positive := by
  induction k, lt using Nat.le_induction with
  | base =>
    rw [natPower_succ]
    exact (near_natPower_ten le_rfl).mul_infinity denotes_ten.near (by norm_num)
      (infiniteBound_le_ten_pow.trans_eq (pow_succ 10 308))
  | succ k _ ih =>
    rw [natPower_succ]
    exact unpack_infinity_mul ih denotes_ten

/-- The powers of ten are all positive. -/
lemma hasSign_natPower_ten (k : Nat) : HasSign (natPower 10 k) .positive := by
  rcases Nat.lt_or_ge 308 k with large | small
  · exact .infinity (natPower_ten_infinity large)
  · obtain ⟨v, denotes, _⟩ := near_natPower_ten small
    exact .finite denotes

/-- A power of ten up to `10 ^ 22` is a double: the power of five in it has 53 bits at most. -/
lemma Rounded.exact_ten_pow (rounded : Rounded x s (10 ^ k)) (le : k ≤ 22) :
    Denotes x s (10 ^ k) := by
  have five : 5 ^ k < 2 ^ 53 := (Nat.pow_le_pow_right (by norm_num) le).trans_lt (by norm_num)
  have grid : ((5 ^ k : Nat) : ℚ) * 2 ^ (k : Int) = 10 ^ k := by
    rw [zpow_natCast, Nat.cast_pow, ← mul_pow]
    norm_num
  have size : 10 ^ k ≤ 2 ^ 128 := (Nat.pow_le_pow_right (by norm_num) le).trans (by norm_num)
  have above : underflowLimit < 10 ^ k :=
    underflowLimit_lt_one.trans_le (one_le_pow₀ (by norm_num))
  have below : (10 : ℚ) ^ k < overflowLimit := by exact_mod_cast natCast_lt_overflowLimit size
  exact rounded.exact above below five (by omega) grid

/-- The powers of ten up to `10 ^ 22` have no rounding. -/
theorem denotes_natPower_ten (le : k ≤ 22) : Denotes (natPower 10 k) .positive (10 ^ k) := by
  induction k with
  | zero => exact_mod_cast denotes_one
  | succ k ih =>
    have rounded := (ih (by omega)).mul denotes_ten
    rw [← pow_succ, ← natPower_succ] at rounded
    exact rounded.exact_ten_pow le

/-- A power of ten up to `2 ^ 53` has no rounding. -/
theorem natPower_ten_exact (le : 10 ^ k ≤ 2 ^ 53) :
    Denotes (natPower 10 k) .positive (10 ^ k : Nat) := by
  have small : k ≤ 22 := by
    by_contra large
    have beyond : 10 ^ 23 ≤ 10 ^ k := Nat.pow_le_pow_right (by norm_num) (by omega)
    omega
  exact_mod_cast denotes_natPower_ten small

/-- A product of a natural with a power of ten has no rounding up to `2 ^ 53`. -/
theorem Denotes.mul_natPower_ten (denotes : Denotes x s n) (le : n * 10 ^ k ≤ 2 ^ 53) :
    Denotes (x * natPower 10 k) s (n * 10 ^ k : Nat) := by
  have n_pos : 0 < n := by exact_mod_cast denotes.pos
  have power_le : 10 ^ k ≤ 2 ^ 53 := (Nat.le_mul_of_pos_left _ n_pos).trans le
  have product := denotes.mul (natPower_ten_exact power_le)
  rw [mul_positive, ← Nat.cast_mul] at product
  exact product.exact_natCast (by positivity) le

/-- A product with a power of ten is finite below the bound. -/
theorem Near.mul_natPower_ten (near : Near x s j r) (few : j ≤ 3) (one_le : 1 ≤ r)
    (bound : r * 10 ^ k ≤ finiteBound) :
    Near (x * natPower 10 k) s (j + 309) (r * 10 ^ k) := by
  have ten_pos : (0 : ℚ) < 10 ^ k := by positivity
  have small : k ≤ 308 := by
    by_contra large
    have beyond : infiniteBound ≤ finiteBound := by
      calc infiniteBound ≤ 10 ^ 309 := infiniteBound_le_ten_pow
        _ ≤ 10 ^ k := pow_le_pow_right₀ (by norm_num) (by omega)
        _ ≤ r * 10 ^ k := le_mul_of_one_le_left ten_pos.le one_le
        _ ≤ finiteBound := bound
    exact absurd beyond (not_le.2 (mul_lt_mul_of_pos_right (by norm_num) overflowLimit_pos))
  have product := near.mul (near_natPower_ten small) (by omega)
    (one_le_mul_of_one_le_of_one_le one_le (one_le_pow₀ (by norm_num))) bound
  rw [mul_positive] at product
  exact product.mono (by omega)

/-- A product with a power of ten is infinite above the bound. -/
theorem Near.mul_natPower_ten_infinity (near : Near x s j r) (few : j ≤ 3)
    (bound : infiniteBound ≤ r * 10 ^ k) :
    (x * natPower 10 k).toModel.unpack = .infinity s := by
  rcases Nat.lt_or_ge 308 k with large | small
  · obtain ⟨v, denotes, _⟩ := near
    have product := unpack_mul_infinity denotes (natPower_ten_infinity large)
    rwa [mul_positive] at product
  · have product := near.mul_infinity (near_natPower_ten small) (by omega) bound
    rwa [mul_positive] at product

end Metrology.Magnitude
