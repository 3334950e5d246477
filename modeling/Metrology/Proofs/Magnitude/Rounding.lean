import Mathlib
import Metrology.Proofs.Magnitude.Neighbours

/-!
# Rounding to doubles

A positive number that is known by its leading bits and by what the other bits amount to is rounded
to the nearest double, halves to the even neighbour. Main statements: the outcome is zero, for a
number up to half the least double, or a double that the number rounds to
(`roundWithAccuracy_rounds`); and where a number rounds to a double, that double is the outcome
(`roundWithAccuracy_eq`).

The bits that are shifted out leave two bits behind, and these say enough (`Represents`): shifting
keeps that, and so the rounded mantissa is the nearest integer (`Nearest`). There is one case in
which the mantissa is cut one place too low, for a number just below a power of two. It is then
rounded up to `2 ^ 53` and shifted once more.
-/

namespace Metrology.Magnitude

open Float.Model Float.Model.UnpackedFloat

/-- What a mantissa with two residual bits says about a number: which half of the unit above the
mantissa it lies in, or where it is exactly. -/
def Represents (em : ExtendedMantissa) (v : ℚ) : Prop :=
  match em.roundBit, em.stickyBit with
  | false, false => v = em.mantissa
  | false, true => em.mantissa < v ∧ v < em.mantissa + 1 / 2
  | true, false => v = em.mantissa + 1 / 2
  | true, true => em.mantissa + 1 / 2 < v ∧ v < em.mantissa + 1

/-- Whether an integer is the nearest one to a number, and the even one of two. -/
structure Nearest (n : Nat) (v : ℚ) : Prop where
  lower : n - 1 / 2 ≤ v
  upper : v ≤ n + 1 / 2
  inside : n % 2 = 1 → n - 1 / 2 < v ∧ v < n + 1 / 2

variable {em : ExtendedMantissa} {v r : ℚ} {m n : Nat} {e t : Int} {s : Sign}

lemma Represents.bounds (represents : Represents em v) :
    (em.mantissa : ℚ) ≤ v ∧ v < em.mantissa + 1 := by
  obtain ⟨mantissa, round, sticky⟩ := em
  cases round <;> cases sticky <;> simp only [Represents] at represents <;> constructor <;> linarith

lemma Represents.shiftRightOne (represents : Represents em v) :
    Represents em.shiftRightOne (v / 2) := by
  obtain ⟨mantissa, round, sticky⟩ := em
  -- the lowest bit of the mantissa becomes the round bit
  obtain ⟨half, even | odd⟩ : ∃ half, mantissa = 2 * half ∨ mantissa = 2 * half + 1 :=
    ⟨mantissa / 2, by omega⟩
  · subst even
    cases round <;> cases sticky <;>
      simp [Represents, ExtendedMantissa.shiftRightOne] at represents ⊢ <;>
      first | linarith | constructor <;> linarith
  · subst odd
    have whole : (2 * half + 1) / 2 = half := by omega
    cases round <;> cases sticky <;>
      simp [Represents, ExtendedMantissa.shiftRightOne, whole] at represents ⊢ <;>
      first | linarith | constructor <;> linarith

lemma Represents.shiftRight (represents : Represents em v) (k : Nat) :
    Represents (em >>> k) (v / 2 ^ k) := by
  show Represents (k.repeat ExtendedMantissa.shiftRightOne em) _
  induction k with
  | zero => simpa [Nat.repeat] using represents
  | succ k ih =>
    rw [pow_succ, ← div_div]
    exact ih.shiftRightOne

lemma Nearest.of_lt (lower : n - 1 / 2 < v) (upper : v < n + 1 / 2) : Nearest n v :=
  ⟨lower.le, upper.le, fun _ => ⟨lower, upper⟩⟩

lemma Represents.nearest (represents : Represents em v) : Nearest em.roundedMantissa v := by
  obtain ⟨mantissa, round, sticky⟩ := em
  cases round <;> cases sticky <;> simp only [Represents] at represents
  case false.false =>
    exact .of_lt (show (mantissa : ℚ) - 1 / 2 < v by linarith)
      (show v < mantissa + 1 / 2 by linarith)
  case false.true =>
    exact .of_lt (show (mantissa : ℚ) - 1 / 2 < v by linarith)
      (show v < mantissa + 1 / 2 by linarith)
  case true.true =>
    have next : ((mantissa + 1 : Nat) : ℚ) = mantissa + 1 := by push_cast; rfl
    exact .of_lt (show ((mantissa + 1 : Nat) : ℚ) - 1 / 2 < v by linarith)
      (show v < (mantissa + 1 : Nat) + 1 / 2 by linarith)
  case true.false =>
    -- halfway: the even one of the two neighbours is taken
    show Nearest (mantissa + mantissa % 2) v
    rcases Nat.mod_two_eq_zero_or_one mantissa with even | odd
    · rw [even]
      exact ⟨by push_cast; linarith, by push_cast; linarith, by omega⟩
    · rw [odd]
      exact ⟨by push_cast; linarith, by push_cast; linarith, by omega⟩

/-! ## Shifting -/

/-- The exponent at which the mantissa has 53 bits, or the least one. -/
lemma targetExponent_eq (m : Nat) (e : Int) :
    Format.binary64.targetExponent (totalExponent m e) = max (m.log2 + e - 52) (-1074) := by
  simp only [Format.targetExponent, totalExponent, Format.mantissaBits, Format.minExponent]
  norm_num
  omega

/-- Shifting to a greater exponent keeps what is known about the number. -/
lemma shiftToExponent_represents {M : Nat} {E : Int} {acc : Accuracy}
    (represents : Represents (.ofMantissaAndAccuracy M acc) (r / 2 ^ E)) (le : E ≤ t) :
    ∃ em, shiftToExponent M E acc t = (em, t) ∧ Represents em (r / 2 ^ t) := by
  have amount : E + ((t - E).toNat : Int) = t := by omega
  refine ⟨_, Prod.ext rfl amount, ?_⟩
  have shifted := represents.shiftRight (t - E).toNat
  rwa [div_div, ← zpow_natCast, ← zpow_add₀ two_ne_zero, amount] at shifted

/-- A mantissa of at most 53 bits stays where it is. -/
lemma shiftToTargetExponent_small (lt : m < 2 ^ 53) (least : -1074 ≤ e) :
    shiftToTargetExponent Format.binary64 m e .exact = (⟨m, false, false⟩, e) := by
  have log : m.log2 ≤ 52 := by
    rcases Nat.eq_zero_or_pos m with rfl | pos
    · decide
    · have := (Nat.log2_lt pos.ne').2 lt
      omega
  have none : (max ((m.log2 : Int) + e - 52) (-1074) - e).toNat = 0 := by omega
  simp only [shiftToTargetExponent, targetExponent_eq, shiftToExponent, none]
  simp [HShiftRight.hShiftRight, Nat.repeat, ExtendedMantissa.ofMantissaAndAccuracy]

/-- A carry out of the 53 bits is shifted back. -/
lemma shiftToTargetExponent_carry (least : -1074 ≤ e) :
    shiftToTargetExponent Format.binary64 (2 ^ 53) e .exact = (⟨2 ^ 52, false, false⟩, e + 1) := by
  have one : (max (((2 ^ 53 : Nat).log2 : Int) + e - 52) (-1074) - e).toNat = 1 := by
    rw [Nat.log2_two_pow]
    omega
  simp only [shiftToTargetExponent, targetExponent_eq, shiftToExponent, one]
  rfl

/-! ## Rounding -/

section Rounding

variable {M : Nat} {E : Int} {acc : Accuracy}

lemma mantissa_ofMantissaAndAccuracy :
    (ExtendedMantissa.ofMantissaAndAccuracy M acc).mantissa = M := by
  cases acc with
  | exact => rfl
  | inexact order => cases order <;> rfl

/-- The leading bit of the mantissa bounds the number from above. -/
lemma lt_two_zpow_log2 (above : r / 2 ^ E < M + 1) : r < 2 ^ ((M.log2 : Int) + E + 1) := by
  have scale := two_zpow_pos E
  have greatest : (M : ℚ) + 1 ≤ 2 ^ (M.log2 + 1) := by exact_mod_cast Nat.lt_log2_self
  rw [show (M.log2 : Int) + E + 1 = (M.log2 + 1 : Nat) + E by push_cast; ring,
    zpow_add₀ two_ne_zero, zpow_natCast]
  exact (div_lt_iff₀ scale).1 (above.trans_le greatest)

/-- It bounds the number from below unless the mantissa is zero. -/
lemma two_zpow_log2_le (pos : 0 < M) (below : (M : ℚ) ≤ r / 2 ^ E) :
    2 ^ ((M.log2 : Int) + E) ≤ r := by
  have scale := two_zpow_pos E
  have least : ((2 : ℚ) ^ M.log2) ≤ M := by exact_mod_cast Nat.log2_self_le pos.ne'
  rw [zpow_add₀ two_ne_zero, zpow_natCast]
  exact (le_div_iff₀ scale).1 (least.trans below)

/-- Rounding cuts a number at an exponent `t` so that 53 bits are left, unless the exponent is the
least one, and goes on with the nearest integer. -/
lemma roundWithAccuracy_cut (represents : Represents (.ofMantissaAndAccuracy M acc) (r / 2 ^ E))
    (enough : 2 ^ 52 ≤ M ∨ E ≤ -1074) (s : Sign) :
    ∃ t n, -1074 ≤ t ∧ Nearest n (r / 2 ^ t) ∧ r / 2 ^ t < 2 ^ 53 ∧
      (-1074 < t → 2 ^ 52 ≤ r / 2 ^ t) ∧
      roundWithAccuracy Format.binary64 s M E acc =
        let last := shiftToTargetExponent Format.binary64 n t .exact
        if h : last.1.mantissa = 0 then .zero s
        else .finite s last.1.mantissa last.2 (Nat.pos_of_ne_zero h) := by
  obtain ⟨below, above⟩ := represents.bounds
  rw [mantissa_ofMantissaAndAccuracy] at below above
  obtain ⟨t, target⟩ : ∃ t, max ((M.log2 : Int) + E - 52) (-1074) = t := ⟨_, rfl⟩
  have scale := two_zpow_pos t
  have le : E ≤ t := by
    rcases enough with large | small
    · have : 52 ≤ M.log2 := (Nat.le_log2 (by omega)).2 large
      omega
    · omega
  obtain ⟨em, shifted, represents_em⟩ := shiftToExponent_represents represents le
  have first : shiftToTargetExponent Format.binary64 M E acc = (em, t) := by
    rw [shiftToTargetExponent, targetExponent_eq, target, shifted]
  refine ⟨t, em.roundedMantissa, by omega, represents_em.nearest, ?_, ?_, ?_⟩
  · rw [div_lt_iff₀ scale, ← zpow_natCast, ← zpow_add₀ two_ne_zero]
    exact (lt_two_zpow_log2 above).trans_le (zpow_le_zpow_right₀ one_le_two (by push_cast; omega))
  · intro greater
    have pos : 0 < M := by
      refine Nat.pos_of_ne_zero fun zero => ?_
      have small : E ≤ -1074 := enough.resolve_left (by omega)
      rw [zero, Nat.log2_zero] at target
      omega
    rw [le_div_iff₀ scale, ← zpow_natCast, ← zpow_add₀ two_ne_zero]
    exact (zpow_le_zpow_right₀ one_le_two (by push_cast; omega)).trans (two_zpow_log2_le pos below)
  · rw [roundWithAccuracy, first]

/-- The nearest integer is the mantissa that a number rounds to, if it has 53 bits. -/
lemma Nearest.roundsTo (nearest : Nearest n (r / 2 ^ t)) (full : -1074 < t → 2 ^ 52 ≤ r / 2 ^ t) :
    RoundsTo n t r := by
  have scale := two_zpow_pos t
  refine ⟨?_, (div_le_iff₀ scale).1 nearest.upper, fun odd => ?_⟩
  · split
    · rename_i narrow
      have := (le_div_iff₀ scale).1 (full narrow.2)
      rw [narrow.1]
      push_cast
      linarith
    · exact (le_div_iff₀ scale).1 nearest.lower
  · obtain ⟨lower, upper⟩ := nearest.inside odd
    exact ⟨(lt_div_iff₀ scale).1 lower, (div_lt_iff₀ scale).1 upper⟩

/-- Rounded up out of the 53 bits, a number rounds to the power of two. -/
lemma Nearest.roundsTo_carry (nearest : Nearest (2 ^ 53) (r / 2 ^ t)) (lt : r / 2 ^ t < 2 ^ 53)
    (least : -1074 ≤ t) : RoundsTo (2 ^ 52) (t + 1) r := by
  have scale := two_zpow_pos t
  have lower := (le_div_iff₀ scale).1 nearest.lower
  have upper := (div_lt_iff₀ scale).1 lt
  push_cast at lower
  refine ⟨?_, ?_, by omega⟩
  · rw [if_pos ⟨rfl, by omega⟩, zpow_add_one₀ two_ne_zero]
    push_cast
    linarith
  · rw [zpow_add_one₀ two_ne_zero]
    push_cast
    linarith

/-- A number that is known well enough rounds to zero or to a double, whose exponent may be too
great. -/
theorem roundWithAccuracy_rounds (represents : Represents (.ofMantissaAndAccuracy M acc) (r / 2 ^ E))
    (enough : 2 ^ 52 ≤ M ∨ E ≤ -1074) (s : Sign) :
    (r ≤ underflowLimit ∧ roundWithAccuracy Format.binary64 s M E acc = .zero s) ∨
      ∃ m e, ∃ canonical : Canonical m e, RoundsTo m e r ∧
        roundWithAccuracy Format.binary64 s M E acc = .finite s m e canonical.pos := by
  obtain ⟨t, n, least, nearest, lt, full, result⟩ := roundWithAccuracy_cut represents enough s
  have fits : n ≤ 2 ^ 53 := by
    have : (n : ℚ) < (2 ^ 53 + 1 : Nat) := by
      push_cast
      linarith [nearest.lower]
    exact Nat.lt_succ_iff.1 (by exact_mod_cast this)
  have normal : 2 ^ 52 ≤ n ∨ t = -1074 := by
    refine or_iff_not_imp_right.2 fun greater => ?_
    have : ((2 ^ 52 : Nat) : ℚ) < (n + 1 : Nat) := by
      push_cast
      linarith [full (by omega), nearest.upper]
    exact Nat.lt_succ_iff.1 (by exact_mod_cast this)
  rcases Nat.eq_zero_or_pos n with rfl | pos
  · left
    obtain rfl : t = -1074 := normal.resolve_left (by decide)
    have upper : r / 2 ^ (-1074 : Int) ≤ 1 / 2 := by simpa using nearest.upper
    rw [result, shiftToTargetExponent_small (by decide) le_rfl, underflowLimit_eq]
    exact ⟨(div_le_iff₀ (two_zpow_pos _)).1 upper, rfl⟩
  right
  rcases Nat.lt_or_eq_of_le fits with small | rfl
  · refine ⟨n, t, ⟨pos, small, least, normal⟩, nearest.roundsTo full, ?_⟩
    rw [result, shiftToTargetExponent_small small least]
    exact dif_neg pos.ne'
  · refine ⟨2 ^ 52, t + 1, ⟨by decide, by decide, by omega, .inl le_rfl⟩,
      nearest.roundsTo_carry lt least, ?_⟩
    rw [result, shiftToTargetExponent_carry least]
    rfl

/-- A number that rounds to a double is rounded to it. -/
theorem roundWithAccuracy_eq (finite : IsBinary64 m e) (rounds : RoundsTo m e r)
    (represents : Represents (.ofMantissaAndAccuracy M acc) (r / 2 ^ E))
    (enough : 2 ^ 52 ≤ M ∨ E ≤ -1074) (s : Sign) :
    roundWithAccuracy Format.binary64 s M E acc = .finite s m e finite.pos := by
  rcases roundWithAccuracy_rounds represents enough s with
    ⟨small, _⟩ | ⟨m', e', canonical, rounds', result⟩
  · exact absurd (rounds.underflowLimit_lt finite.canonical) (not_lt.2 small)
  · obtain ⟨rfl, rfl⟩ := rounds.unique finite.canonical rounds' canonical
    exact result

end Rounding

end Metrology.Magnitude
