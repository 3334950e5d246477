import Mathlib
import Metrology.Proofs.Magnitude.Rounding

/-!
# Doubles from decimals

The double that is read from decimal digits and an exponent is the one that the exact decimal rounds
to (`ofScientific_eq`). Few digits with a small exponent are read by one product or quotient of two
doubles that are exact; all others by a product or quotient of integers. Either way one exact result
is rounded once.
-/

namespace Metrology.Magnitude

open Float.Model Float.Model.UnpackedFloat

variable {m m₁ m₂ : Nat} {e e₁ e₂ : Int} {r : ℚ}

/-! ## Products and quotients -/

/-- A product is known exactly before it is rounded. -/
lemma mul_eq (finite : IsBinary64 m e) (pos₁ : 0 < m₁) (pos₂ : 0 < m₂) (large : 2 ^ 52 ≤ m₁ * m₂)
    (rounds : RoundsTo m e (m₁ * 2 ^ e₁ * (m₂ * 2 ^ e₂))) :
    UnpackedFloat.mul Format.binary64 (.finite .positive m₁ e₁ pos₁)
        (.finite .positive m₂ e₂ pos₂) =
      .finite .positive m e finite.pos := by
  apply roundWithAccuracy_eq finite rounds _ (.inl large)
  show _ = ((m₁ * m₂ : Nat) : ℚ)
  rw [zpow_add₀ two_ne_zero]
  push_cast
  field_simp

lemma represents_accuracyOfFraction {q num den : Nat} (lt : num < den) :
    Represents (.ofMantissaAndAccuracy q (accuracyOfFraction num den)) (q + num / den) := by
  have den_pos : (0 : ℚ) < den := by exact_mod_cast Nat.zero_lt_of_lt lt
  rw [accuracyOfFraction]
  split
  · rename_i zero
    show (q : ℚ) + num / den = q
    rw [zero]
    simp
  · rename_i nonzero
    have num_pos : (0 : ℚ) < num := by exact_mod_cast Nat.pos_of_ne_zero nonzero
    have below_one : (num : ℚ) / den < 1 := (div_lt_one den_pos).2 (by exact_mod_cast lt)
    have above_zero : (0 : ℚ) < num / den := by positivity
    cases half : compare (2 * num) den with
    | lt =>
      have less : (2 : ℚ) * num < den := by exact_mod_cast Nat.compare_eq_lt.1 half
      have : (num : ℚ) / den < 1 / 2 := by rw [div_lt_div_iff₀ den_pos two_pos]; linarith
      show (q : ℚ) < q + num / den ∧ (q : ℚ) + num / den < q + 1 / 2
      exact ⟨by linarith, by linarith⟩
    | eq =>
      have same : (2 : ℚ) * num = den := by exact_mod_cast Nat.compare_eq_eq.1 half
      show (q : ℚ) + num / den = q + 1 / 2
      rw [← same]
      field_simp
    | gt =>
      have greater : (den : ℚ) < 2 * num := by exact_mod_cast Nat.compare_eq_gt.1 half
      have : 1 / 2 < (num : ℚ) / den := by rw [div_lt_div_iff₀ two_pos den_pos]; linarith
      show (q : ℚ) + 1 / 2 < q + num / den ∧ (q : ℚ) + num / den < q + 1
      exact ⟨by linarith, by linarith⟩

/-- A quotient has 53 bits before it is rounded, or reaches down to the least exponent. -/
lemma divCore_spec (e₁ e₂ : Int) (pos₁ : 0 < m₁) (pos₂ : 0 < m₂) :
    let (q, t, acc) := divCore Format.binary64 m₁ e₁ m₂ e₂
    Represents (.ofMantissaAndAccuracy q acc) (m₁ * 2 ^ e₁ / (m₂ * 2 ^ e₂) / 2 ^ t) ∧
      (2 ^ 52 ≤ q ∨ t ≤ -1074) := by
  -- the exponent that is aimed at, with the constants of the format in place
  have target : Format.binary64.targetExponent (totalExponent m₁ e₁ - totalExponent m₂ e₂) =
      max ((m₁.log2 : Int) + e₁ - (m₂.log2 + e₂) - 53) (-1074) := by
    simp only [Format.targetExponent, totalExponent, Format.mantissaBits, Format.minExponent]
    norm_num
    omega
  simp only [divCore, target]
  generalize chosen : min (e₁ - e₂) (max ((m₁.log2 : Int) + e₁ - (m₂.log2 + e₂) - 53) (-1074)) = t
  have shift : ((e₁ - e₂ - t).toNat : Int) = e₁ - e₂ - t := by omega
  generalize (e₁ - e₂ - t).toNat = k at shift
  rw [Nat.shiftLeft_eq]
  constructor
  · have represents := represents_accuracyOfFraction (q := m₁ * 2 ^ k / m₂)
      (Nat.mod_lt (m₁ * 2 ^ k) pos₂)
    have value : (m₁ : ℚ) * 2 ^ e₁ / (m₂ * 2 ^ e₂) / 2 ^ t =
        (m₁ * 2 ^ k / m₂ : Nat) + (m₁ * 2 ^ k % m₂ : Nat) / (m₂ : ℚ) := by
      have den_pos : (0 : ℚ) < m₂ := by exact_mod_cast pos₂
      have division :
          (m₂ : ℚ) * (m₁ * 2 ^ k / m₂ : Nat) + (m₁ * 2 ^ k % m₂ : Nat) = m₁ * 2 ^ k := by
        exact_mod_cast Nat.div_add_mod (m₁ * 2 ^ k) m₂
      have exponents : (2 : ℚ) ^ e₁ = 2 ^ k * 2 ^ e₂ * 2 ^ t := by
        rw [← zpow_natCast, ← zpow_add₀ two_ne_zero, ← zpow_add₀ two_ne_zero, shift]
        congr 1
        ring
      rw [exponents]
      field_simp
      linarith
    rw [value]
    exact represents
  · refine or_iff_not_imp_right.2 fun greater => ?_
    have bits : m₂.log2 + 53 ≤ m₁.log2 + k := by omega
    rw [Nat.le_div_iff_mul_le pos₂]
    calc 2 ^ 52 * m₂ ≤ 2 ^ 52 * 2 ^ (m₂.log2 + 1) := Nat.mul_le_mul_left _ Nat.lt_log2_self.le
      _ = 2 ^ (m₂.log2 + 53) := by rw [← pow_add]; congr 1; ring
      _ ≤ 2 ^ (m₁.log2 + k) := Nat.pow_le_pow_right (by decide) bits
      _ = 2 ^ m₁.log2 * 2 ^ k := pow_add _ _ _
      _ ≤ m₁ * 2 ^ k := Nat.mul_le_mul_right _ (Nat.log2_self_le pos₁.ne')

/-- An integer times a power of two is shifted to the left if it is too short. -/
lemma round_eq {M : Nat} {E : Int} (finite : IsBinary64 m e) (pos : 0 < M)
    (rounds : RoundsTo m e (M * 2 ^ E)) (s : Sign) :
    UnpackedFloat.round Format.binary64 s M E = .finite s m e finite.pos := by
  unfold UnpackedFloat.round decreaseExponent
  simp only [targetExponent_eq, Nat.shiftLeft_eq]
  generalize shift : (E - max ((M.log2 : Int) + E - 52) (-1074)).toNat = k
  have value :
      Represents (.ofMantissaAndAccuracy (M * 2 ^ k) .exact) (M * 2 ^ E / 2 ^ (E - k)) := by
    show (M : ℚ) * 2 ^ E / 2 ^ (E - k) = ((M * 2 ^ k : Nat) : ℚ)
    rw [zpow_sub₀ two_ne_zero, zpow_natCast]
    push_cast
    field_simp
  have enough : 2 ^ 52 ≤ M * 2 ^ k ∨ E - k ≤ -1074 := by
    refine or_iff_not_imp_right.2 fun greater => ?_
    have bits : 52 ≤ M.log2 + k := by omega
    calc 2 ^ 52 ≤ 2 ^ (M.log2 + k) := Nat.pow_le_pow_right (by decide) bits
      _ = 2 ^ M.log2 * 2 ^ k := pow_add _ _ _
      _ ≤ M * 2 ^ k := Nat.mul_le_mul_right _ (Nat.log2_self_le pos.ne')
  exact roundWithAccuracy_eq finite rounds value enough s

/-- A quotient is known well enough before it is rounded. -/
lemma div_eq (finite : IsBinary64 m e) (pos₁ : 0 < m₁) (pos₂ : 0 < m₂)
    (rounds : RoundsTo m e (m₁ * 2 ^ e₁ / (m₂ * 2 ^ e₂))) :
    UnpackedFloat.div Format.binary64 (.finite .positive m₁ e₁ pos₁)
        (.finite .positive m₂ e₂ pos₂) =
      .finite .positive m e finite.pos := by
  obtain ⟨represents, enough⟩ := divCore_spec e₁ e₂ pos₁ pos₂
  exact roundWithAccuracy_eq finite rounds represents enough .positive

/-! ## Exact operands -/

/-- Whether a double is a given positive natural, with all 53 bits in use. -/
def Exactly (x : Float) (n : Nat) : Prop :=
  ∃ (m : Nat) (e : Int) (pos : 0 < m), x.toModel.unpack = .finite .positive m e pos ∧
    (m : ℚ) * 2 ^ e = n ∧ 2 ^ 52 ≤ m

/-- Naturals below `2 ^ 53` are doubles. -/
lemma exactly_toFloat {n : Nat} (pos : 0 < n) (lt : n < 2 ^ 53) : Exactly n.toUInt64.toFloat n := by
  have log : n.log2 < 53 := (Nat.log2_lt pos.ne').2 lt
  obtain ⟨k, shift⟩ : ∃ k, n.log2 + k = 52 := ⟨52 - n.log2, by omega⟩
  have large : 2 ^ 52 ≤ n * 2 ^ k := by
    rw [← shift, pow_add]
    exact Nat.mul_le_mul_right _ (Nat.log2_self_le pos.ne')
  have small : n * 2 ^ k < 2 ^ 53 := by
    rw [show 53 = n.log2 + 1 + k by omega, pow_add]
    exact Nat.mul_lt_mul_of_pos_right Nat.lt_log2_self (Nat.two_pow_pos k)
  have finite : IsBinary64 (n * 2 ^ k) (-k) :=
    ⟨by omega, small, by omega, by omega, .inl large⟩
  have value : ((n * 2 ^ k : Nat) : ℚ) * 2 ^ (-k : Int) = n := by
    push_cast
    rw [zpow_neg, zpow_natCast]
    field_simp
  have rounds : RoundsTo (n * 2 ^ k) (-k) n := value ▸ RoundsTo.self (n * 2 ^ k) (-k)
  have rounded : UnpackedFloat.ofNat Format.binary64 n =
      .finite .positive (n * 2 ^ k) (-k) finite.pos := by
    have positive : compare (n : Int) 0 = .gt := Int.compare_eq_gt.2 (by exact_mod_cast pos)
    unfold UnpackedFloat.ofNat UnpackedFloat.ofInt UnpackedFloat.normalize
    rw [positive]
    exact round_eq finite pos (by simpa using rounds) .positive
  have unpacked : n.toUInt64.toFloat.toModel = .pack (UnpackedFloat.ofNat Format.binary64 n) := by
    have whole : n.toUInt64.toNat = n := by
      show n % 2 ^ 64 = n
      omega
    show Float.Model.pack (UnpackedFloat.ofNat Format.binary64 n.toUInt64.toNat) = _
    rw [whole]
  refine ⟨n * 2 ^ k, -k, finite.pos, ?_, value, large⟩
  rw [unpacked, rounded, unpack_pack finite]

/-- Evaluates whether a double is a given natural. -/
def isExactly (x : Float) (n : Nat) : Bool :=
  match x.toModel.unpack with
  | .finite .positive m e _ => m * 2 ^ e.toNat == n * 2 ^ (-e).toNat && 2 ^ 52 ≤ m
  | _ => false

lemma exactly_of_isExactly {x : Float} {n : Nat} (exactly : isExactly x n) : Exactly x n := by
  unfold isExactly at exactly
  split at exactly
  · rename_i m e pos unpacked
    simp only [Bool.and_eq_true, beq_iff_eq, decide_eq_true_eq] at exactly
    obtain ⟨value, large⟩ := exactly
    refine ⟨m, e, pos, unpacked, ?_, large⟩
    have value : (m : ℚ) * 2 ^ e.toNat = n * 2 ^ (-e).toNat := by exact_mod_cast value
    have exponent : (2 : ℚ) ^ e = 2 ^ e.toNat / 2 ^ (-e).toNat := by
      rw [← zpow_natCast, ← zpow_natCast, ← zpow_sub₀ two_ne_zero]
      congr 1
      omega
    rw [exponent, ← mul_div_assoc, value]
    field_simp
  · cases exactly

/-- The powers of ten up to `10 ^ 22` are doubles. -/
lemma exactly_powersOfTen : ∀ k : Fin Float.exactlyRepresentablePowersOfTen.size,
    isExactly Float.exactlyRepresentablePowersOfTen[k] (10 ^ k.val) := by
  decide +kernel

/-! ## Decimals -/

variable {n : Nat} {k : Int}

/-- The power of ten that multiplies or divides. -/
lemma ten_zpow_eq (k : Int) :
    (10 : ℚ) ^ k = if k < 0 then 1 / 10 ^ k.natAbs else 10 ^ k.natAbs := by
  split
  · rw [one_div, ← zpow_natCast, ← zpow_neg]
    congr 1
    omega
  · rw [← zpow_natCast]
    congr 1
    omega

/-- With few digits and a small exponent, two exact doubles are multiplied or divided. -/
lemma ofScientific_fast (finite : IsBinary64 m e) (pos : 0 < n) (rounds : RoundsTo m e (n * 10 ^ k))
    (few : n < 2 ^ 53 ∧ k.natAbs ≤ 22) :
    Float.ofScientific n (k < 0) k.natAbs =
      .ofModel (.pack (.finite .positive m e finite.pos)) := by
  have size : k.natAbs < Float.exactlyRepresentablePowersOfTen.size :=
    Nat.lt_succ_of_le few.2
  obtain ⟨m₁, e₁, pos₁, unpacked₁, value₁, large₁⟩ := exactly_toFloat pos few.1
  obtain ⟨m₂, e₂, pos₂, unpacked₂, value₂, large₂⟩ :=
    exactly_of_isExactly (exactly_powersOfTen ⟨k.natAbs, size⟩)
  push_cast at value₂
  rw [Float.ofScientific, dif_pos few]
  -- both operands are exact, so the one rounding is that of the operation
  rw [ten_zpow_eq, ← value₁, ← value₂] at rounds
  by_cases negative : k < 0
  · rw [if_pos (decide_eq_true negative)]
    rw [if_pos negative, mul_one_div] at rounds
    have divided := div_eq finite pos₁ pos₂ rounds
    rw [← unpacked₁, ← unpacked₂] at divided
    exact congrArg (fun f => Float.ofModel (.pack f)) divided
  · rw [if_neg (by simpa using negative)]
    rw [if_neg negative] at rounds
    have multiplied := mul_eq finite pos₁ pos₂ (by nlinarith) rounds
    rw [← unpacked₁, ← unpacked₂] at multiplied
    exact congrArg (fun f => Float.ofModel (.pack f)) multiplied

/-- Otherwise the digits and the power of ten are multiplied or divided as naturals. -/
lemma ofScientific_exact (finite : IsBinary64 m e) (pos : 0 < n)
    (rounds : RoundsTo m e (n * 10 ^ k)) (least : -2048 - (n.log2 : Int) ≤ k)
    (greatest : k ≤ 2048) :
    UnpackedFloat.ofScientific Format.binary64 n k = .finite .positive m e finite.pos := by
  unfold UnpackedFloat.ofScientific
  rw [dif_neg pos.ne', if_neg (show ¬k > 2 ^ 11 by omega),
    if_neg (show ¬k < -((2 ^ 11 : Int) + n.log2) by omega)]
  by_cases positive : 0 ≤ k
  · rw [if_pos positive]
    have shifted :
        ((n <<< 53 : Nat) : ℚ) * 2 ^ (-53 : Int) * ((10 ^ k.toNat : Nat) * 2 ^ (0 : Int)) =
          n * 10 ^ k := by
      have power : (10 : ℚ) ^ k = 10 ^ k.toNat := by
        rw [← zpow_natCast, Int.toNat_of_nonneg positive]
      rw [power, Nat.shiftLeft_eq]
      push_cast
      norm_num
      ring
    rw [← shifted] at rounds
    -- the digits are shifted so that the product has 53 bits even without a power of ten
    have large : 2 ^ 52 ≤ n <<< 53 * 10 ^ k.toNat := by
      rw [Nat.shiftLeft_eq]
      calc 2 ^ 52 ≤ 1 * 2 ^ 53 * 1 := by norm_num
        _ ≤ n * 2 ^ 53 * 10 ^ k.toNat := by gcongr; exacts [pos, Nat.one_le_pow _ _ (by decide)]
    exact mul_eq finite _ _ large rounds
  · rw [if_neg positive]
    have quotient :
        (n : ℚ) * 2 ^ (0 : Int) / ((10 ^ (-k).toNat : Nat) * 2 ^ (0 : Int)) = n * 10 ^ k := by
      have power : (10 : ℚ) ^ k = 1 / 10 ^ (-k).toNat := by
        rw [one_div, ← zpow_natCast, ← zpow_neg, Int.toNat_of_nonneg (by omega), neg_neg]
      rw [power]
      push_cast
      ring
    rw [← quotient] at rounds
    exact div_eq finite _ _ rounds

/-- Decimal digits and an exponent are read as the double that the decimal rounds to. -/
theorem ofScientific_eq (finite : IsBinary64 m e) (pos : 0 < n) (rounds : RoundsTo m e (n * 10 ^ k))
    (least : -2048 - (n.log2 : Int) ≤ k) (greatest : k ≤ 2048) :
    Float.ofScientific n (k < 0) k.natAbs =
      .ofModel (.pack (.finite .positive m e finite.pos)) := by
  by_cases few : n < 2 ^ 53 ∧ k.natAbs ≤ 22
  · exact ofScientific_fast finite pos rounds few
  · have exponent :
        (if decide (k < 0) = true then Int.negOfNat k.natAbs else Int.ofNat k.natAbs) = k := by
      split
      · rename_i negative
        have := of_decide_eq_true negative
        rw [Int.negOfNat_eq]
        show -(k.natAbs : Int) = k
        omega
      · rename_i positive
        have : ¬k < 0 := fun negative => positive (decide_eq_true negative)
        show (k.natAbs : Int) = k
        omega
    rw [Float.ofScientific, dif_neg few]
    simp only [exponent]
    rw [Float.Model.ofScientific, ofScientific_exact finite pos rounds least greatest]

end Metrology.Magnitude
