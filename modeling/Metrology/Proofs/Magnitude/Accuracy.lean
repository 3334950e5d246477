import Mathlib
import Metrology.Proofs.Magnitude.Nearest

/-!
# Roundings in sequence

How far a double is from an exact number after a known count of roundings (`Near`). A product adds
the counts of its factors and one more, and is finite below the overflow limit but for the error that
the count allows (`Near.mul`, `Near.mul_infinity`); a quotient of such numbers is finite and not zero
(`Near.div`). Words are rounded once (`near_ofInt`), the naturals up to `2 ^ 53` not at all
(`denotes_ofInt`).
-/

namespace Metrology.Magnitude

open Float.Model Float.Model.UnpackedFloat

variable {x y : Float} {s t : Sign} {v w r q : ℚ} {m j k n : Nat} {e : Int}

/-! ## Counting roundings -/

/-- What one rounding leaves of a number, at least. -/
def retained : ℚ := 1 - 1 / 2 ^ 53

/-- Whether two numbers are apart by so many roundings at most. -/
structure Within (k : Nat) (v r : ℚ) : Prop where
  lower : retained ^ k * r ≤ v
  upper : retained ^ k * v ≤ r

lemma retained_pow_pos (k : Nat) : 0 < retained ^ k :=
  pow_pos (by norm_num [retained]) k

/-- Up to 512 roundings leave all but a small part of a number. -/
lemma le_retained_pow (few : k ≤ 512) : 1 - 1 / 2 ^ 44 ≤ retained ^ k := by
  have small : (k : ℚ) ≤ 512 := by exact_mod_cast few
  have bernoulli := one_add_mul_le_pow (show (-2 : ℚ) ≤ -(1 / 2 ^ 53) by norm_num) k
  rw [← sub_eq_add_neg, ← retained] at bernoulli
  linarith

lemma Within.refl (r : ℚ) : Within 0 r r := by
  constructor <;> simp

lemma Within.trans (first : Within j v w) (second : Within k w r) : Within (j + k) v r := by
  have positive := retained_pow_pos
  constructor
  · calc retained ^ (j + k) * r = retained ^ j * (retained ^ k * r) := by ring
      _ ≤ retained ^ j * w := mul_le_mul_of_nonneg_left second.lower (positive j).le
      _ ≤ v := first.lower
  · calc retained ^ (j + k) * v = retained ^ k * (retained ^ j * v) := by ring
      _ ≤ retained ^ k * w := mul_le_mul_of_nonneg_left first.upper (positive k).le
      _ ≤ r := second.upper

lemma Within.pos (within : Within k v r) (pos : 0 < v) : 0 < r :=
  (mul_pos (retained_pow_pos k) pos).trans_le within.upper

lemma Within.mono (within : Within j v r) (le : j ≤ k) (v_pos : 0 < v) : Within k v r := by
  have less : retained ^ k ≤ retained ^ j :=
    pow_le_pow_of_le_one (by norm_num [retained]) (by norm_num [retained]) le
  have r_pos := within.pos v_pos
  exact ⟨(mul_le_mul_of_nonneg_right less r_pos.le).trans within.lower,
    (mul_le_mul_of_nonneg_right less v_pos.le).trans within.upper⟩

lemma Within.mul (first : Within j v r) (second : Within k w q) (v_pos : 0 < v) (w_pos : 0 < w) :
    Within (j + k) (v * w) (r * q) := by
  have positive := retained_pow_pos
  have r_pos := first.pos v_pos
  have q_pos := second.pos w_pos
  constructor
  · calc retained ^ (j + k) * (r * q) = (retained ^ j * r) * (retained ^ k * q) := by ring
      _ ≤ v * w := mul_le_mul first.lower second.lower (mul_pos (positive k) q_pos).le v_pos.le
  · calc retained ^ (j + k) * (v * w) = (retained ^ j * v) * (retained ^ k * w) := by ring
      _ ≤ r * q := mul_le_mul first.upper second.upper (mul_pos (positive k) w_pos).le r_pos.le

lemma Within.inv (within : Within k v r) (pos : 0 < v) : Within k v⁻¹ r⁻¹ := by
  have r_pos := within.pos pos
  constructor
  · rw [← div_eq_mul_inv, div_le_iff₀ r_pos, ← div_eq_inv_mul, le_div_iff₀ pos]
    exact within.upper
  · rw [← div_eq_mul_inv, div_le_iff₀ pos, ← div_eq_inv_mul, le_div_iff₀ r_pos]
    exact within.lower

lemma Within.div (first : Within j v r) (second : Within k w q) (v_pos : 0 < v) (w_pos : 0 < w) :
    Within (j + k) (v / w) (r / q) := by
  rw [div_eq_mul_inv, div_eq_mul_inv]
  exact first.mul (second.inv w_pos) v_pos (inv_pos.2 w_pos)

/-- Above the numbers with less than 53 bits, rounding moves a number by half a unit of its last
place. -/
lemma RoundsTo.within (rounds : RoundsTo m e r) (canonical : Canonical m e)
    (normal : 2 ^ (-1022 : Int) ≤ r) : Within 1 (m * 2 ^ e) r := by
  have scale := two_zpow_pos e
  have full : (2 : ℚ) ^ 52 ≤ m := by
    rcases canonical.normal with full | rfl
    · exact_mod_cast full
    · by_contra small
      have below : m + 1 ≤ 2 ^ 52 := by
        have : m < 2 ^ 52 := by exact_mod_cast not_le.1 small
        omega
      have below : (m : ℚ) + 1 ≤ 2 ^ 52 := by exact_mod_cast below
      have limit : (2 : ℚ) ^ (-1022 : Int) = 2 ^ 52 * 2 ^ (-1074 : Int) := by
        rw [show (-1022 : Int) = (52 : Nat) + -1074 by rfl, zpow_add₀ two_ne_zero, zpow_natCast]
      have upper := rounds.upper
      rw [limit] at normal
      nlinarith
  constructor
  · calc retained ^ 1 * r ≤ retained ^ 1 * ((m + 1 / 2) * 2 ^ e) :=
          mul_le_mul_of_nonneg_left rounds.upper (retained_pow_pos 1).le
      _ = (retained * (m + 1 / 2)) * 2 ^ e := by ring
      _ ≤ m * 2 ^ e := by
          refine mul_le_mul_of_nonneg_right ?_ scale.le
          unfold retained
          linarith
  · calc retained ^ 1 * (m * 2 ^ e) = (retained * m) * 2 ^ e := by ring
      _ ≤ (m - 1 / 2) * 2 ^ e := by
          refine mul_le_mul_of_nonneg_right ?_ scale.le
          unfold retained
          linarith
      _ ≤ r := rounds.half_below

/-! ## Doubles after a count of roundings -/

/-- Whether a double is finite and a number with a sign, up to a count of roundings. -/
def Near (x : Float) (s : Sign) (k : Nat) (r : ℚ) : Prop :=
  ∃ v, Denotes x s v ∧ Within k v r

/-- Below this bound a product of few roundings is finite. -/
def finiteBound : ℚ := (1 - 1 / 2 ^ 43) * overflowLimit

/-- From this bound on a product of few roundings is infinite. -/
def infiniteBound : ℚ := (1 + 1 / 2 ^ 43) * overflowLimit

lemma overflowLimit_pos : 0 < overflowLimit :=
  zero_lt_one.trans one_lt_overflowLimit

lemma finiteBound_lt_overflowLimit : finiteBound < overflowLimit :=
  mul_lt_of_lt_one_left overflowLimit_pos (by norm_num)

lemma finiteBound_eq : finiteBound = (1 - 1 / 2 ^ 43) * (2 ^ 54 - 1) * 2 ^ (970 : Int) := by
  rw [finiteBound, overflowLimit_eq, mul_assoc]

/-- Few roundings of a number below the bound do not lead to the overflow limit. -/
lemma Within.lt_overflowLimit (within : Within k v r) (few : k ≤ 512) (bound : r ≤ finiteBound) :
    v < overflowLimit := by
  by_contra large
  have kept : (1 - 1 / 2 ^ 44) * overflowLimit ≤ finiteBound := by
    calc (1 - 1 / 2 ^ 44) * overflowLimit ≤ retained ^ k * v :=
          mul_le_mul (le_retained_pow few) (not_lt.1 large) overflowLimit_pos.le
            (retained_pow_pos _).le
      _ ≤ r := within.upper
      _ ≤ finiteBound := bound
  have := overflowLimit_pos
  unfold finiteBound at kept
  linarith

lemma Denotes.near (denotes : Denotes x s r) : Near x s 0 r :=
  ⟨r, denotes, .refl r⟩

lemma Near.mono (near : Near x s j r) (le : j ≤ k) : Near x s k r := by
  obtain ⟨v, denotes, within⟩ := near
  exact ⟨v, denotes, within.mono le denotes.pos⟩

/-- One rounding of a number in range. -/
lemma Rounded.near (rounded : Rounded x s r) (normal : 2 ^ (-1022 : Int) ≤ r)
    (below : r < overflowLimit) : Near x s 1 r := by
  have tiny : underflowLimit < 2 ^ (-1022 : Int) := zpow_lt_zpow_right₀ one_lt_two (by norm_num)
  obtain ⟨m, e, finite, rounds, unpacked⟩ :=
    rounded.exists_roundsTo (tiny.trans_le normal) below
  exact ⟨_, denotes_of_unpack unpacked, rounds.within finite.canonical normal⟩

lemma Rounded.unpack_infinity (rounded : Rounded x s r) (large : overflowLimit ≤ r) :
    x.toModel.unpack = .infinity s := by
  cases rounded with
  | zero small _ =>
    have between := underflowLimit_lt_one.trans one_lt_overflowLimit
    exact absurd (large.trans small) (not_le.2 between)
  | finite binary64 rounds _ =>
    exact absurd large (not_le.2 (rounds.lt_overflowLimit binary64))
  | infinity _ unpacked => exact unpacked

/-- Below the bound, a product of few roundings is one more rounding away from the exact one. -/
theorem Near.mul (left : Near x s j r) (right : Near y t k q) (few : j + k ≤ 512)
    (one_le : 1 ≤ r * q) (bound : r * q ≤ finiteBound) :
    Near (x * y) (s * t) (j + k + 1) (r * q) := by
  obtain ⟨v, denotes_v, within_v⟩ := left
  obtain ⟨w, denotes_w, within_w⟩ := right
  have within := within_v.mul within_w denotes_v.pos denotes_w.pos
  have leaves := le_retained_pow few
  have normal : 2 ^ (-1022 : Int) ≤ v * w := by
    calc (2 : ℚ) ^ (-1022 : Int) ≤ 2 ^ (-1 : Int) :=
          zpow_le_zpow_right₀ one_le_two (by norm_num)
      _ ≤ (1 - 1 / 2 ^ 44) * 1 := by norm_num
      _ ≤ retained ^ (j + k) * (r * q) :=
          mul_le_mul leaves one_le zero_le_one (retained_pow_pos _).le
      _ ≤ v * w := within.lower
  have below : v * w < overflowLimit := within.lt_overflowLimit few bound
  obtain ⟨z, denotes, last⟩ := (denotes_v.mul denotes_w).near normal below
  rw [Nat.add_comm]
  exact ⟨z, denotes, last.trans within⟩

/-- From the bound on, a product of few roundings is infinite. -/
theorem Near.mul_infinity (left : Near x s j r) (right : Near y t k q) (few : j + k ≤ 512)
    (bound : infiniteBound ≤ r * q) : (x * y).toModel.unpack = .infinity (s * t) := by
  obtain ⟨v, denotes_v, within_v⟩ := left
  obtain ⟨w, denotes_w, within_w⟩ := right
  have within := within_v.mul within_w denotes_v.pos denotes_w.pos
  have limit := overflowLimit_pos
  refine (denotes_v.mul denotes_w).unpack_infinity ?_
  calc overflowLimit ≤ (1 - 1 / 2 ^ 44) * infiniteBound := by
        unfold infiniteBound
        linarith
    _ ≤ retained ^ (j + k) * (r * q) :=
        mul_le_mul (le_retained_pow few) bound (by unfold infiniteBound; linarith)
          (retained_pow_pos _).le
    _ ≤ v * w := within.lower

/-- A quotient of few roundings between numbers below the bound is neither infinite nor zero. -/
theorem Near.div (left : Near x s j r) (right : Near y t k q) (few : j + k ≤ 512) (one_le_r : 1 ≤ r)
    (r_le : r ≤ finiteBound) (one_le_q : 1 ≤ q) (q_le : q ≤ finiteBound) :
    ∃ z, Denotes (x / y) (s * t) z := by
  obtain ⟨v, denotes_v, within_v⟩ := left
  obtain ⟨w, denotes_w, within_w⟩ := right
  have within := within_v.div within_w denotes_v.pos denotes_w.pos
  have q_pos : 0 < q := zero_lt_one.trans_le one_le_q
  have above : underflowLimit < v / w := by
    have q_le : q ≤ 2 ^ (1024 : Int) :=
      (q_le.trans finiteBound_lt_overflowLimit.le).trans (sub_le_self _ (two_zpow_pos 970).le)
    calc underflowLimit < 2 ^ (-1 : Int) * 2 ^ (-1024 : Int) := by
          rw [← zpow_add₀ two_ne_zero]
          exact zpow_lt_zpow_right₀ one_lt_two (by norm_num)
      _ ≤ (1 - 1 / 2 ^ 44) * 2 ^ (-1024 : Int) :=
          mul_le_mul_of_nonneg_right (by norm_num) (two_zpow_pos _).le
      _ ≤ retained ^ (j + k) * (r / q) := by
          refine mul_le_mul (le_retained_pow few) ?_ (two_zpow_pos _).le (retained_pow_pos _).le
          rw [zpow_neg, ← one_div]
          exact div_le_div₀ (zero_le_one.trans one_le_r) one_le_r q_pos q_le
      _ ≤ v / w := within.lower
  have below : v / w < overflowLimit :=
    within.lt_overflowLimit few ((div_le_self (zero_le_one.trans one_le_r) one_le_q).trans r_le)
  obtain ⟨m, e, finite, _, unpacked⟩ := (denotes_v.div denotes_w).exists_roundsTo above below
  exact ⟨_, denotes_of_unpack unpacked⟩

/-! ## Integers -/

/-- Products of two words are far from the bound. -/
lemma natCast_le_finiteBound (le : n ≤ 2 ^ 128) : (n : ℚ) ≤ finiteBound := by
  have n_le : (n : ℚ) ≤ 2 ^ 128 := by exact_mod_cast le
  have scale : (2 : ℚ) ^ 128 ≤ 2 ^ (970 : Int) := by
    rw [← zpow_natCast]
    exact zpow_le_zpow_right₀ one_le_two (by norm_num)
  rw [finiteBound_eq]
  exact (n_le.trans scale).trans (le_mul_of_one_le_left (two_zpow_pos 970).le (by norm_num))

lemma natCast_lt_overflowLimit (le : n ≤ 2 ^ 128) : (n : ℚ) < overflowLimit :=
  (natCast_le_finiteBound le).trans_lt finiteBound_lt_overflowLimit

/-- The naturals up to `2 ^ 53` are doubles. -/
lemma exists_grid (le : n ≤ 2 ^ 53) :
    ∃ (m : Nat) (e : Int), m < 2 ^ 53 ∧ -1074 ≤ e ∧ (m : ℚ) * 2 ^ e = n := by
  rcases Nat.eq_or_lt_of_le le with rfl | lt
  · exact ⟨2 ^ 52, 1, by norm_num, by norm_num, by norm_num⟩
  · exact ⟨n, 0, lt, by norm_num, by simp⟩

/-- A natural up to `2 ^ 53` is not changed by rounding. -/
lemma Rounded.exact_natCast (rounded : Rounded x s n) (pos : 0 < n) (le : n ≤ 2 ^ 53) :
    Denotes x s n := by
  have one_le : (1 : ℚ) ≤ n := by exact_mod_cast pos
  obtain ⟨m, e, lt, least, grid⟩ := exists_grid le
  exact rounded.exact (underflowLimit_lt_one.trans_le one_le)
    (natCast_lt_overflowLimit (le.trans (by norm_num))) lt least grid

lemma denotes_ofNat (pos : 0 < n) (le : n ≤ 2 ^ 53) : Denotes (Float.ofNat n) .positive n :=
  (rounded_ofNat pos (natCast_lt_overflowLimit (le.trans (by norm_num)))).exact_natCast pos le

lemma denotes_ofInt {n : Int} (nonzero : n ≠ 0) (le : n.natAbs ≤ 2 ^ 53) :
    Denotes (Float.ofInt n) (signOf n) n.natAbs :=
  (rounded_ofInt nonzero (natCast_lt_overflowLimit (le.trans (by norm_num)))).exact_natCast
    (Int.natAbs_pos.2 nonzero) le

/-- Quotients of naturals up to `2 ^ 53` are far from both limits. -/
lemma natCast_div_range (m_pos : 0 < m) (m_le : m ≤ 2 ^ 53) (n_pos : 0 < n) (n_le : n ≤ 2 ^ 53) :
    underflowLimit < (m / n : ℚ) ∧ (m / n : ℚ) < overflowLimit := by
  have one_le_m : (1 : ℚ) ≤ m := by exact_mod_cast m_pos
  have one_le_n : (1 : ℚ) ≤ n := by exact_mod_cast n_pos
  have n_le : (n : ℚ) ≤ 2 ^ 53 := by exact_mod_cast n_le
  constructor
  · calc underflowLimit < 2 ^ (-53 : Int) := zpow_lt_zpow_right₀ one_lt_two (by norm_num)
      _ = 1 / 2 ^ 53 := by norm_num
      _ ≤ m / n := div_le_div₀ (by linarith) one_le_m (by linarith) n_le
  · calc (m / n : ℚ) ≤ m := div_le_self (by linarith) one_le_n
      _ < overflowLimit := natCast_lt_overflowLimit (m_le.trans (by norm_num))

lemma normal_le_one : (2 : ℚ) ^ (-1022 : Int) ≤ 1 :=
  zpow_le_one_of_nonpos₀ one_le_two (by norm_num)

/-- A word is rounded once. -/
lemma near_ofInt {n : Int} (nonzero : n ≠ 0) (word : n.natAbs ≤ 2 ^ 64) :
    Near (Float.ofInt n) (signOf n) 1 n.natAbs := by
  have one_le : (1 : ℚ) ≤ n.natAbs := by exact_mod_cast Int.natAbs_pos.2 nonzero
  have below := natCast_lt_overflowLimit (word.trans (by norm_num))
  exact (rounded_ofInt nonzero below).near (normal_le_one.trans one_le) below

/-- Two words and their product are rounded once each. -/
theorem near_mul_ofInt {m n : Int} (hm : m ≠ 0) (hn : n ≠ 0) (m_le : m.natAbs ≤ 2 ^ 64)
    (n_le : n.natAbs ≤ 2 ^ 64) :
    Near (Float.ofInt m * Float.ofInt n) (signOf (m * n)) 3 (m * n).natAbs := by
  have one_le : 1 ≤ m.natAbs * n.natAbs := Nat.mul_pos (Int.natAbs_pos.2 hm) (Int.natAbs_pos.2 hn)
  have le : m.natAbs * n.natAbs ≤ 2 ^ 128 :=
    (Nat.mul_le_mul m_le n_le).trans (by norm_num)
  have bound := natCast_le_finiteBound le
  rw [Nat.cast_mul] at bound
  rw [Int.natAbs_mul, Nat.cast_mul, signOf_mul hm hn]
  exact (near_ofInt hm m_le).mul (near_ofInt hn n_le) (by norm_num) (by exact_mod_cast one_le) bound

end Metrology.Magnitude
