import Mathlib
import Metrology.Word

/-!
# Words of 128 bits

Arithmetic on machine words, each step with the condition under which it is the exact one: a step that
would wrap, divide by zero or drop bits is a `Trap`. Main statement: a step on the words of integers
gives the word of the exact result wherever that one fits (`mul_ofInt`, `div_ofInt`, `neg_ofInt`,
`gcd_eq`, `narrow_ofInt`), so a computation on words is followed on integers as long as its numbers
stay in range.
-/

namespace Metrology

/-- Whether a signed word of 128 bits holds an integer. -/
abbrev Fits128 (n : Int) : Prop :=
  -2 ^ 127 ≤ n ∧ n < 2 ^ 127

/-- Why a step on machine words is not the exact one. -/
inductive Trap where
  | overflow
  | divisionByZero
  | lostBits
deriving DecidableEq

@[simp] lemma Trap.ok_bind {α β : Type} (a : α) (f : α → Except Trap β) :
    (Except.ok a >>= f) = f a := rfl

namespace WideWord

/-! ## Steps -/

/-- The word of a word of 64 bits, with its sign. -/
def widen (a : Int64) : BitVec 128 :=
  a.toBitVec.signExtend 128

/-- The product of two signed words. -/
def mul (a b : BitVec 128) : Except Trap (BitVec 128) :=
  if a.smulOverflow b then .error .overflow else .ok (a * b)

/-- The quotient of two signed words, rounded towards zero. -/
def div (a b : BitVec 128) : Except Trap (BitVec 128) :=
  if b = 0 then .error .divisionByZero
  else if a.sdivOverflow b then .error .overflow
  else .ok (a.sdiv b)

/-- The negation of a signed word. -/
def neg (a : BitVec 128) : Except Trap (BitVec 128) :=
  if a.negOverflow then .error .overflow else .ok (-a)

/-- The remainder of two unsigned words. -/
def rem (a b : BitVec 128) : Except Trap (BitVec 128) :=
  if b = 0 then .error .divisionByZero else .ok (a % b)

/-- An unsigned word as a signed one. -/
def signed (a : BitVec 128) : Except Trap (BitVec 128) :=
  if a.msb then .error .lostBits else .ok a

/-- A signed word as one of 64 bits. -/
def narrow (a : BitVec 128) : Except Trap Int64 :=
  if widen (.ofBitVec (a.setWidth 64)) = a then .ok (.ofBitVec (a.setWidth 64)) else .error .lostBits

lemma toNat_lt_of_rem {a b t : BitVec 128} (remainder : rem a b = .ok t) (nonzero : b ≠ 0) :
    t.toNat < b.toNat := by
  rw [rem, if_neg nonzero] at remainder
  cases remainder
  rw [BitVec.toNat_umod]
  exact Nat.mod_lt _ (Nat.pos_of_ne_zero fun zero => nonzero (BitVec.eq_of_toNat_eq zero))

/-- The greatest common divisor of two unsigned words, by Euclid's loop. -/
def gcd (a b : BitVec 128) : Except Trap (BitVec 128) :=
  if nonzero : b = 0 then .ok a
  else
    match remainder : rem a b with
    | .error trap => .error trap
    | .ok t =>
      have := toNat_lt_of_rem remainder nonzero
      gcd b t
termination_by b.toNat
decreasing_by
  assumption

/-! ## Words of integers -/

variable {x y : Int}

lemma toInt_ofInt (fits : Fits128 x) : (BitVec.ofInt 128 x).toInt = x :=
  BitVec.toInt_ofInt_eq_self (by decide) fits.1 fits.2

lemma toInt_widen (a : Int64) : (widen a).toInt = a.toInt := by
  rw [widen, BitVec.toInt_signExtend_of_le (by decide), Int64.toInt_toBitVec]

lemma widen_eq_ofInt (a : Int64) : widen a = BitVec.ofInt 128 a.toInt := by
  rw [← toInt_widen, BitVec.ofInt_toInt]

/-- Words of integers are ordered as the integers. -/
lemma slt_ofInt (hx : Fits128 x) (hy : Fits128 y) :
    (BitVec.ofInt 128 x).slt (BitVec.ofInt 128 y) = decide (x < y) := by
  rw [BitVec.slt_eq_decide, toInt_ofInt hx, toInt_ofInt hy]

lemma ofInt_ne_zero (fits : Fits128 x) (nonzero : x ≠ 0) : BitVec.ofInt 128 x ≠ 0 := by
  intro zero
  have same := congrArg BitVec.toInt zero
  rw [toInt_ofInt fits] at same
  exact nonzero same

theorem mul_ofInt (hx : Fits128 x) (hy : Fits128 y) (fits : Fits128 (x * y)) :
    mul (.ofInt 128 x) (.ofInt 128 y) = .ok (.ofInt 128 (x * y)) := by
  have exact : ¬(BitVec.ofInt 128 x).smulOverflow (BitVec.ofInt 128 y) = true := by
    simp only [BitVec.smulOverflow, toInt_ofInt hx, toInt_ofInt hy, Bool.or_eq_true,
      decide_eq_true_eq]
    omega
  rw [mul, if_neg exact, BitVec.ofInt_mul]

theorem neg_ofInt (hx : Fits128 x) (fits : Fits128 (-x)) :
    neg (.ofInt 128 x) = .ok (.ofInt 128 (-x)) := by
  have exact : ¬(BitVec.ofInt 128 x).negOverflow = true := by
    simp only [BitVec.negOverflow, toInt_ofInt hx, beq_iff_eq]
    omega
  rw [neg, if_neg exact, BitVec.ofInt_neg]

/-- A divisor that goes into an integer leaves a quotient of no greater size. -/
lemma fits128_of_mul {q : Int} (fits : Fits128 (y * q)) (pos : 0 < y) : Fits128 q := by
  have size : q.natAbs ≤ (y * q).natAbs := by
    rw [Int.natAbs_mul]
    exact Nat.le_mul_of_pos_left _ (by omega)
  rcases lt_or_ge q 0 with negative | nonneg
  · have := Int.mul_neg_of_pos_of_neg pos negative
    omega
  · have := Int.mul_nonneg pos.le nonneg
    omega

/-- A quotient by a positive divisor is exact if there is no remainder. -/
theorem div_ofInt (hx : Fits128 x) (hy : Fits128 y) (pos : 0 < y) (divides : y ∣ x) :
    div (.ofInt 128 x) (.ofInt 128 y) = .ok (.ofInt 128 (x / y)) := by
  obtain ⟨q, rfl⟩ := divides
  have hq : Fits128 q := fits128_of_mul hx pos
  have exact : ¬(BitVec.ofInt 128 (y * q)).sdivOverflow (BitVec.ofInt 128 y) = true := by
    simp only [BitVec.sdivOverflow, toInt_ofInt hx, toInt_ofInt hy,
      Int.mul_ediv_cancel_left q pos.ne', Bool.or_eq_true, decide_eq_true_eq]
    omega
  have positive : BitVec.ofInt 128 y ≠ -1#128 := by
    intro minus
    have same := congrArg BitVec.toInt minus
    rw [toInt_ofInt hy] at same
    have : (-1#128).toInt = -1 := by decide
    omega
  rw [div, if_neg (ofInt_ne_zero hy pos.ne'), if_neg exact, Int.mul_ediv_cancel_left q pos.ne']
  apply congrArg Except.ok
  apply BitVec.eq_of_toInt_eq
  rw [BitVec.toInt_sdiv_of_ne_or_ne _ _ (.inr positive), toInt_ofInt hx, toInt_ofInt hy,
    toInt_ofInt hq, Int.mul_tdiv_cancel_left q pos.ne']

/-- The one quotient without a remainder that no word holds. -/
example : div (.ofInt 128 (-2 ^ 127)) (.ofInt 128 (-1)) = .error .overflow := by
  decide

/-- The absolute value as an unsigned word is exact for the least word too. -/
lemma toNat_abs {w : Nat} (a : BitVec w) : a.abs.toNat = a.toInt.natAbs := by
  have bound := a.isLt
  rw [BitVec.toNat_abs, BitVec.toInt_eq_msb_cond]
  split
  · omega
  · omega

/-- Euclid's loop divides by no zero and ends with the greatest common divisor. -/
theorem gcd_eq (a b : BitVec 128) : gcd a b = .ok (.ofNat 128 (a.toNat.gcd b.toNat)) := by
  fun_induction gcd a b with
  | case1 a => simp
  | case2 a b nonzero trap failed =>
    rw [rem, if_neg nonzero] at failed
    cases failed
  | case3 a b nonzero t remainder _ ih =>
    rw [rem, if_neg nonzero] at remainder
    cases remainder
    rw [ih, BitVec.toNat_umod, Nat.gcd_comm, ← Nat.gcd_rec, Nat.gcd_comm]

/-- What two integers share is found on their words. -/
lemma gcd_abs_ofInt (hx : Fits128 x) (hy : Fits128 y) :
    gcd (BitVec.ofInt 128 x).abs (BitVec.ofInt 128 y).abs = .ok (.ofNat 128 (x.gcd y)) := by
  rw [gcd_eq, toNat_abs, toNat_abs, toInt_ofInt hx, toInt_ofInt hy, Int.gcd]

/-- An unsigned word below the sign bit is the same as a signed one. -/
theorem signed_ofNat {n : Nat} (lt : n < 2 ^ 127) :
    signed (.ofNat 128 n) = .ok (.ofInt 128 n) := by
  have top : (BitVec.ofNat 128 n).msb = false := by
    rw [BitVec.msb_eq_decide, BitVec.toNat_ofNat, decide_eq_false_iff_not]
    omega
  rw [signed, top, if_neg Bool.false_ne_true, BitVec.ofInt_natCast]

/-- An integer that fits 64 bits loses none of them. -/
theorem narrow_ofInt (fits : Fits64 x) : narrow (.ofInt 128 x) = .ok (.ofInt x) := by
  have low : Int64.ofBitVec ((BitVec.ofInt 128 x).setWidth 64) = .ofInt x := by
    apply Int64.toBitVec_inj.1
    rw [Int64.toBitVec_ofInt, Int64.toBitVec_ofBitVec]
    apply BitVec.eq_of_toNat_eq
    rw [BitVec.toNat_setWidth, BitVec.toNat_ofInt, BitVec.toNat_ofInt]
    omega
  have back : widen (.ofInt x) = BitVec.ofInt 128 x := by
    rw [widen_eq_ofInt, Int64.toInt_ofInt_of_le fits.1 fits.2]
  rw [narrow, low, if_pos back]

end WideWord

end Metrology
