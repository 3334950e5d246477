import Mathlib
import Metrology.Proofs.Magnitude.Packing

/-!
# Doubles around a number

Which double a positive rational number rounds to, stated by the halfway points to the neighbours of
the double (`RoundsTo`). Main statements: there is one such double only (`RoundsTo.unique`), and no
other one is nearer to the number (`RoundsTo.closest`). Both come from the distance of a double to
the next greater and the next smaller one.

Below half the least double a number rounds to none, and neither does it from the halfway point after
the greatest one on (`underflowLimit`, `overflowLimit`).
-/

namespace Metrology.Magnitude

variable {r : ℚ} {m m' : Nat} {e e' : Int}

/-- Whether a number rounds to the double with the given mantissa and exponent: it lies between the
halfway points to the neighbours, which belong to the double if its mantissa is even. The neighbour
below a power of two is nearer, unless there is no smaller exponent. -/
structure RoundsTo (m : Nat) (e : Int) (r : ℚ) : Prop where
  lower : (m - if m = 2 ^ 52 ∧ -1074 < e then 1 / 4 else 1 / 2) * 2 ^ e ≤ r
  upper : r ≤ (m + 1 / 2) * 2 ^ e
  inside : m % 2 = 1 → (m - 1 / 2) * 2 ^ e < r ∧ r < (m + 1 / 2) * 2 ^ e

lemma two_zpow_pos (k : Int) : (0 : ℚ) < 2 ^ k := by positivity

/-- A double rounds to itself. -/
lemma RoundsTo.self (m : Nat) (e : Int) : RoundsTo m e (m * 2 ^ e) := by
  have scale := two_zpow_pos e
  refine ⟨?_, ?_, fun _ => ⟨?_, ?_⟩⟩
  · gcongr
    split <;> norm_num
  · gcongr
    linarith
  · gcongr
    linarith
  · gcongr
    linarith

lemma RoundsTo.half_below (rounds : RoundsTo m e r) : (m - 1 / 2) * 2 ^ e ≤ r := by
  refine le_trans ?_ rounds.lower
  gcongr
  split <;> norm_num

/-! ## Neighbours -/

/-- A mantissa and an exponent in the form that rounding ends with: the mantissa fills 53 bits unless
the exponent is the least one. There is no greatest exponent yet. -/
structure Canonical (m : Nat) (e : Int) : Prop where
  pos : 0 < m
  lt : m < 2 ^ 53
  least : -1074 ≤ e
  normal : 2 ^ 52 ≤ m ∨ e = -1074

lemma IsBinary64.canonical (finite : IsBinary64 m e) : Canonical m e :=
  ⟨finite.pos, finite.lt, finite.least, finite.normal⟩

/-- A multiple of a power of two, in terms of a smaller one. -/
lemma exists_eq_mul_two_zpow (m' : Nat) (le : e ≤ e') :
    ∃ k : Nat, (m' : ℚ) * 2 ^ e' = k * 2 ^ e := by
  refine ⟨m' * 2 ^ (e' - e).toNat, ?_⟩
  push_cast
  rw [mul_assoc, ← zpow_natCast, ← zpow_add₀ two_ne_zero]
  congr 2
  omega

/-- A double that is greater is greater by one unit in the last place at least. -/
lemma Canonical.succ_le (canonical : Canonical m e) (lt : m' < 2 ^ 53) (least : -1074 ≤ e')
    (above : (m : ℚ) * 2 ^ e < m' * 2 ^ e') : (m + 1) * 2 ^ e ≤ (m' : ℚ) * 2 ^ e' := by
  have scale := two_zpow_pos e
  rcases le_or_gt e e' with le | gt
  · obtain ⟨k, same⟩ := exists_eq_mul_two_zpow m' le
    rw [same] at above ⊢
    have less : m < k := by exact_mod_cast lt_of_mul_lt_mul_right above scale.le
    gcongr
    exact_mod_cast less
  · -- with a smaller exponent it would be below all mantissas of 53 bits
    have full : (2 : ℚ) ^ 52 ≤ m := by exact_mod_cast canonical.normal.resolve_right (by omega)
    have m'_le : (m' : ℚ) ≤ 2 ^ 53 := by exact_mod_cast lt.le
    have below : (m' : ℚ) * 2 ^ e' ≤ m * 2 ^ e := by
      calc (m' : ℚ) * 2 ^ e' ≤ 2 ^ 53 * 2 ^ (e - 1) := by
            gcongr
            · norm_num
            · omega
        _ = 2 ^ 52 * 2 ^ e := by
            rw [zpow_sub_one₀ two_ne_zero]
            ring
        _ ≤ m * 2 ^ e := by gcongr
    exact absurd above (not_lt.2 below)

/-- A double that is smaller is smaller by one unit in the last place at least, or by half of one
where the mantissas of 53 bits begin. -/
lemma Canonical.le_pred (canonical : Canonical m e) (lt : m' < 2 ^ 53) (least : -1074 ≤ e')
    (below : (m' : ℚ) * 2 ^ e' < m * 2 ^ e) :
    (m' : ℚ) * 2 ^ e' ≤ (m - if m = 2 ^ 52 ∧ -1074 < e then 1 / 2 else 1) * 2 ^ e := by
  have scale := two_zpow_pos e
  rcases le_or_gt e e' with le | gt
  · obtain ⟨k, same⟩ := exists_eq_mul_two_zpow m' le
    rw [same] at below ⊢
    have less : k < m := by exact_mod_cast lt_of_mul_lt_mul_right below scale.le
    have step : (k : ℚ) + 1 ≤ m := by exact_mod_cast less
    gcongr
    split
    · linarith
    · linarith
  · have full : 2 ^ 52 ≤ m := canonical.normal.resolve_right (by omega)
    have m'_le : (m' : ℚ) ≤ 2 ^ 53 - 1 := by
      have : (m' : ℚ) + 1 ≤ 2 ^ 53 := by exact_mod_cast lt
      linarith
    calc (m' : ℚ) * 2 ^ e' ≤ (2 ^ 53 - 1) * 2 ^ (e - 1) := by
          gcongr
          · norm_num
          · omega
      _ = (2 ^ 52 - 1 / 2) * 2 ^ e := by
          rw [zpow_sub_one₀ two_ne_zero]
          ring
      _ ≤ (m - if m = 2 ^ 52 ∧ -1074 < e then 1 / 2 else 1) * 2 ^ e := by
          refine mul_le_mul_of_nonneg_right ?_ scale.le
          split
          · rename_i power
            rw [power.1]
            norm_num
          · have : 2 ^ 52 + 1 ≤ m := by omega
            have : (2 : ℚ) ^ 52 + 1 ≤ m := by exact_mod_cast this
            linarith

/-- No double is nearer to a number than the one that it rounds to, and another one is as near only
if the mantissa is even. -/
lemma RoundsTo.closest (rounds : RoundsTo m e r) (canonical : Canonical m e) (lt : m' < 2 ^ 53)
    (least : -1074 ≤ e') (other : (m' : ℚ) * 2 ^ e' ≠ m * 2 ^ e) :
    |m * 2 ^ e - r| ≤ |m' * 2 ^ e' - r| ∧
      (m % 2 = 1 → |m * 2 ^ e - r| < |m' * 2 ^ e' - r|) := by
  have scale := two_zpow_pos e
  obtain ⟨lower, upper, inside⟩ := rounds
  rcases lt_or_gt_of_ne other with below | above
  · -- the halfway point to the neighbour below lies between the two
    have step := canonical.le_pred lt least below
    have toward : m * 2 ^ e - r ≤ r - m' * 2 ^ e' := by
      split at lower
      · rw [if_pos ‹_›] at step
        linarith
      · rw [if_neg ‹_›] at step
        linarith
    have beyond : (m' : ℚ) * 2 ^ e' - r ≤ 0 := by linarith
    rw [abs_of_nonpos beyond]
    refine ⟨abs_le.2 ⟨by linarith, by linarith⟩, fun odd => ?_⟩
    rw [if_neg (by omega)] at step
    have := (inside odd).1
    exact abs_lt.2 ⟨by linarith, by linarith⟩
  · have step := canonical.succ_le lt least above
    have beyond : 0 ≤ (m' : ℚ) * 2 ^ e' - r := by linarith
    rw [abs_of_nonneg beyond]
    refine ⟨abs_le.2 ⟨by linarith, by linarith⟩, fun odd => ?_⟩
    have := (inside odd).2
    exact abs_lt.2 ⟨by linarith, by linarith⟩

/-- A number has one canonical form. -/
lemma Canonical.unique (canonical : Canonical m e) (canonical' : Canonical m' e')
    (same : (m : ℚ) * 2 ^ e = m' * 2 ^ e') : m = m' ∧ e = e' := by
  wlog le : e ≤ e' generalizing m e m' e'
  · obtain ⟨mantissa, exponent⟩ := this canonical' canonical same.symm (by omega)
    exact ⟨mantissa.symm, exponent.symm⟩
  obtain ⟨j, exponent⟩ : ∃ j : Nat, e' = e + j := ⟨(e' - e).toNat, by omega⟩
  have whole : m = m' * 2 ^ j := by
    have scale := two_zpow_pos e
    rw [exponent, zpow_add₀ two_ne_zero, zpow_natCast, mul_comm (2 ^ e) (2 ^ j : ℚ),
      ← mul_assoc] at same
    exact_mod_cast mul_right_cancel₀ scale.ne' same
  rcases Nat.eq_zero_or_pos j with rfl | positive
  · exact ⟨by simpa using whole, by omega⟩
  · -- the smaller exponent would need a mantissa of more than 53 bits
    have full : 2 ^ 52 ≤ m' := canonical'.normal.resolve_right (by have := canonical.least; omega)
    have : 2 ^ 52 * 2 ^ 1 ≤ m' * 2 ^ j :=
      Nat.mul_le_mul full (Nat.pow_le_pow_right (by decide) positive)
    have := canonical.lt
    omega

/-- A number rounds to one double. -/
lemma RoundsTo.unique (rounds : RoundsTo m e r) (canonical : Canonical m e)
    (rounds' : RoundsTo m' e' r) (canonical' : Canonical m' e') : m = m' ∧ e = e' := by
  by_contra different
  wlog above : (m : ℚ) * 2 ^ e < m' * 2 ^ e' generalizing m e m' e'
  · rcases lt_trichotomy ((m : ℚ) * 2 ^ e) (m' * 2 ^ e') with lt | eq | gt
    · exact above lt
    · exact different (canonical.unique canonical' eq)
    · exact this rounds' canonical' rounds canonical
        (fun same => different ⟨same.1.symm, same.2.symm⟩) gt
  -- the number is halfway between two neighbours, which cannot both have an even mantissa
  obtain ⟨near, strict⟩ := rounds.closest canonical canonical'.lt canonical'.least above.ne'
  obtain ⟨near', strict'⟩ := rounds'.closest canonical' canonical.lt canonical.least above.ne
  have even : m % 2 = 0 := by
    by_contra odd
    exact absurd (strict (by omega)) (not_lt.2 near')
  have even' : m' % 2 = 0 := by
    by_contra odd
    exact absurd (strict' (by omega)) (not_lt.2 near)
  have step := canonical.succ_le canonical'.lt canonical'.least above
  have upper := rounds.upper
  have halfway : (m : ℚ) * 2 ^ e + m' * 2 ^ e' = 2 * r := by
    rcases abs_eq_abs.1 (le_antisymm near near') with same | opposite
    · linarith
    · linarith
  have next : (m' : ℚ) * 2 ^ e' = (m + 1 : Nat) * 2 ^ e := by
    push_cast
    linarith
  have canonical_next : Canonical (m + 1) e :=
    ⟨m.succ_pos, by have := canonical.lt; omega, canonical.least,
      canonical.normal.imp_left fun full => by omega⟩
  have := (canonical'.unique canonical_next next).1
  omega

/-! ## Limits -/

/-- Numbers up to half the least double round to zero. -/
def underflowLimit : ℚ := 2 ^ (-1075 : Int)

/-- Numbers from the halfway point after the greatest double on round to infinity. -/
def overflowLimit : ℚ := 2 ^ (1024 : Int) - 2 ^ (970 : Int)

lemma underflowLimit_eq : underflowLimit = 1 / 2 * 2 ^ (-1074 : Int) := by
  rw [underflowLimit, show (-1075 : Int) = -1 + -1074 by rfl, zpow_add₀ two_ne_zero]
  norm_num

lemma overflowLimit_eq : overflowLimit = (2 ^ 54 - 1) * 2 ^ (970 : Int) := by
  rw [overflowLimit, show (1024 : Int) = (54 : Nat) + 970 by rfl, zpow_add₀ two_ne_zero, zpow_natCast]
  ring

lemma underflowLimit_lt_one : underflowLimit < 1 :=
  zpow_lt_one_of_neg₀ one_lt_two (by norm_num)

lemma one_lt_overflowLimit : 1 < overflowLimit := by
  have scale : (1 : ℚ) < 2 ^ (970 : Int) := one_lt_zpow₀ one_lt_two (by norm_num)
  rw [overflowLimit_eq]
  exact one_lt_mul (by norm_num) scale

lemma RoundsTo.underflowLimit_lt (rounds : RoundsTo m e r) (canonical : Canonical m e) :
    underflowLimit < r := by
  have scale := two_zpow_pos e
  have least : (2 : ℚ) ^ (-1074 : Int) ≤ 2 ^ e := by
    gcongr
    · norm_num
    · exact canonical.least
  rw [underflowLimit_eq]
  rcases Nat.eq_or_lt_of_le canonical.pos with one | more
  · have := (rounds.inside (by omega)).1
    rw [← one] at this
    norm_num at this
    linarith
  · have two_le : (2 : ℚ) ≤ m := by exact_mod_cast more
    have := rounds.half_below
    nlinarith

lemma RoundsTo.lt_overflowLimit (rounds : RoundsTo m e r) (finite : IsBinary64 m e) :
    r < overflowLimit := by
  have scale := two_zpow_pos e
  have greatest : (2 : ℚ) ^ e ≤ 2 * 2 ^ (970 : Int) := by
    rw [← zpow_one_add₀ two_ne_zero]
    exact zpow_le_zpow_right₀ one_le_two finite.greatest
  have top : (2 ^ 53 - 1 / 2) * 2 ^ e ≤ overflowLimit := by
    calc ((2 : ℚ) ^ 53 - 1 / 2) * 2 ^ e ≤ (2 ^ 53 - 1 / 2) * (2 * 2 ^ (970 : Int)) := by
          gcongr
      _ = overflowLimit := by
          rw [overflowLimit_eq]
          ring
  refine lt_of_lt_of_le ?_ top
  rcases Nat.eq_or_lt_of_le finite.lt with last | before
  · -- the greatest mantissa is odd, so the halfway point above it is not its own
    have value : (m : ℚ) = 2 ^ 53 - 1 := by
      have : (m : ℚ) + 1 = 2 ^ 53 := by exact_mod_cast last
      linarith
    have := (rounds.inside (by omega)).2
    rw [value] at this
    linarith
  · have m_le : (m : ℚ) + 2 ≤ 2 ^ 53 := by exact_mod_cast before
    refine rounds.upper.trans_lt ?_
    gcongr
    linarith

/-- Half the least double and the double after the greatest one bound what rounds to a double. -/
lemma RoundsTo.range (rounds : RoundsTo m e r) (finite : IsBinary64 m e) :
    2 ^ (-1075 : Int) ≤ r ∧ r < 2 ^ (1024 : Int) :=
  ⟨(rounds.underflowLimit_lt finite.canonical).le,
    (rounds.lt_overflowLimit finite).trans (sub_lt_self _ (two_zpow_pos 970))⟩

/-- Below the overflow limit, the exponent is in range. -/
lemma RoundsTo.isBinary64 (rounds : RoundsTo m e r) (canonical : Canonical m e)
    (lt : r < overflowLimit) : IsBinary64 m e := by
  obtain ⟨pos, m_lt, least, normal⟩ := canonical
  refine ⟨pos, m_lt, least, ?_, normal⟩
  by_contra beyond
  have scale := two_zpow_pos e
  have greater : 4 * 2 ^ (970 : Int) ≤ (2 : ℚ) ^ e := by
    rw [show (4 : ℚ) = 2 ^ (2 : Int) by norm_num, ← zpow_add₀ two_ne_zero]
    exact zpow_le_zpow_right₀ one_le_two (by omega)
  have full : 2 ^ 52 ≤ m := normal.resolve_right (by omega)
  have lower : (2 ^ 52 - 1 / 4) * 2 ^ e ≤ r := by
    refine le_trans (mul_le_mul_of_nonneg_right ?_ scale.le) rounds.lower
    split
    · have : (2 : ℚ) ^ 52 ≤ m := by exact_mod_cast full
      linarith
    · have : 2 ^ 52 + 1 ≤ m := by omega
      have : (2 : ℚ) ^ 52 + 1 ≤ m := by exact_mod_cast this
      linarith
  rw [overflowLimit_eq] at lt
  nlinarith

end Metrology.Magnitude
