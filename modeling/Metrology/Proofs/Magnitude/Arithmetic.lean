import Mathlib
import Metrology.Proofs.Magnitude.Scientific

/-!
# Arithmetic of doubles

Products, quotients and converted integers, described by exact numbers. Main statement: a product or
quotient of finite doubles other than zero is the exact one, rounded once, and so is an integer that
is brought to a double (`Denotes.mul`, `Denotes.div`, `rounded_ofInt`). What a number is rounded to
has its sign and is zero, finite or infinite, as its size says (`Rounded`).

With a finite operand other than zero there is no product or quotient without a value, so signs
multiply even where the other operand is zero or infinite (`HasSign`).
-/

namespace Metrology.Magnitude

open Float.Model Float.Model.UnpackedFloat

variable {x y : Float} {s t : Sign} {v w r : ℚ} {m n : Nat} {e : Int}

/-! ## Descriptions of doubles -/

/-- Whether a double is finite and not zero: its sign and its absolute value. -/
def Denotes (x : Float) (s : Sign) (v : ℚ) : Prop :=
  ∃ (m : Nat) (e : Int) (finite : IsBinary64 m e),
    x.toModel.unpack = .finite s m e finite.pos ∧ m * 2 ^ e = v

/-- What a positive number comes to, with a sign, when it is rounded to a double. -/
inductive Rounded (x : Float) (s : Sign) (r : ℚ) : Prop where
  | zero (small : r ≤ underflowLimit) (unpacked : x.toModel.unpack = .zero s)
  | finite {m : Nat} {e : Int} (binary64 : IsBinary64 m e) (rounds : RoundsTo m e r)
      (unpacked : x.toModel.unpack = .finite s m e binary64.pos)
  | infinity (large : overflowLimit ≤ r) (unpacked : x.toModel.unpack = .infinity s)

/-- Whether a double has a value, finite or not, and a given sign. -/
inductive HasSign (x : Float) (s : Sign) : Prop where
  | zero (unpacked : x.toModel.unpack = .zero s)
  | finite {v : ℚ} (denotes : Denotes x s v)
  | infinity (unpacked : x.toModel.unpack = .infinity s)

lemma denotes_of_unpack {pos : 0 < m} (unpacked : x.toModel.unpack = .finite s m e pos) :
    Denotes x s (m * 2 ^ e) :=
  ⟨m, e, (spells_of_unpack unpacked).2.isBinary64, unpacked, rfl⟩

lemma Rounded.hasSign (rounded : Rounded x s r) : HasSign x s := by
  cases rounded with
  | zero _ unpacked => exact .zero unpacked
  | finite _ _ unpacked => exact .finite (denotes_of_unpack unpacked)
  | infinity _ unpacked => exact .infinity unpacked

/-- Between the limits a number is rounded to a finite one. -/
lemma Rounded.exists_roundsTo (rounded : Rounded x s r) (above : underflowLimit < r)
    (below : r < overflowLimit) :
    ∃ (m : Nat) (e : Int) (finite : IsBinary64 m e),
      RoundsTo m e r ∧ x.toModel.unpack = .finite s m e finite.pos := by
  cases rounded with
  | zero small _ => exact absurd small (not_le.2 above)
  | finite binary64 rounds unpacked => exact ⟨_, _, binary64, rounds, unpacked⟩
  | infinity large _ => exact absurd large (not_le.2 below)

lemma HasSign.isNaN (sign : HasSign x s) : x.isNaN = false := by
  show x.toModel.unpack.isNaN = false
  cases sign with
  | zero unpacked => rw [unpacked]; rfl
  | finite denotes =>
    obtain ⟨m, e, finite, unpacked, _⟩ := denotes
    rw [unpacked]
    rfl
  | infinity unpacked => rw [unpacked]; rfl

/-- The sign bit is set for the negative sign. -/
lemma HasSign.isNegative_iff (sign : HasSign x s) : isNegative x ↔ s = .negative := by
  apply Magnitude.isNegative_iff
  cases sign with
  | zero unpacked => exact (zero_of_unpack unpacked).1
  | finite denotes =>
    obtain ⟨m, e, finite, unpacked, _⟩ := denotes
    exact (spells_of_unpack unpacked).1
  | infinity unpacked => exact (infinity_of_unpack unpacked).1

/-! ## Rounding -/

lemma unpack_pack_zero (s : Sign) : (Float.Model.pack (.zero s)).unpack = .zero s := by
  cases s <;> rfl

lemma unpack_pack_infinity (s : Sign) : (Float.Model.pack (.infinity s)).unpack = .infinity s := by
  cases s <;> rfl

/-- With an exponent that is too great, a number is packed as infinity. -/
lemma unpack_pack_overflow (pos : 0 < m) (beyond : 972 ≤ e) (s : Sign) :
    (Float.Model.pack (.finite s m e pos)).unpack = .infinity s := by
  have packed : UnpackedFloat.pack Format.binary64 (.finite s m e pos) =
      UnpackedFloat.pack Format.binary64 (.infinity s) :=
    if_pos (show 2 ^ 11 ≤ (e + 1023 + 52).toNat + 1 by omega)
  have same : Float.Model.pack (.finite s m e pos) = Float.Model.pack (.infinity s) := by
    simp only [Float.Model.pack, packed]
  rw [same, unpack_pack_infinity]

lemma rounded_of_roundWithAccuracy {M : Nat} {E : Int} {acc : Accuracy}
    (outcome : x.toModel = .pack (roundWithAccuracy Format.binary64 s M E acc))
    (represents : Represents (.ofMantissaAndAccuracy M acc) (r / 2 ^ E))
    (enough : 2 ^ 52 ≤ M ∨ E ≤ -1074) : Rounded x s r := by
  rcases roundWithAccuracy_rounds represents enough s with
    ⟨small, result⟩ | ⟨m, e, canonical, rounds, result⟩
  · refine .zero small ?_
    rw [outcome, result, unpack_pack_zero]
  · rw [result] at outcome
    rcases lt_or_ge r overflowLimit with lt | large
    · have finite := rounds.isBinary64 canonical lt
      exact .finite finite rounds (by rw [outcome, unpack_pack finite])
    · have beyond : 972 ≤ e := by
        by_contra within
        have finite : IsBinary64 m e :=
          ⟨canonical.pos, canonical.lt, canonical.least, by omega, canonical.normal⟩
        exact absurd (rounds.lt_overflowLimit finite) (not_lt.2 large)
      exact .infinity large (by rw [outcome, unpack_pack_overflow canonical.pos beyond])

/-! ## Products and quotients -/

lemma toModel_mul {a b : UnpackedFloat} (left : x.toModel.unpack = a)
    (right : y.toModel.unpack = b) :
    (x * y).toModel = .pack (UnpackedFloat.mul Format.binary64 a b) := by
  rw [← left, ← right]
  rfl

lemma toModel_div {a b : UnpackedFloat} (left : x.toModel.unpack = a)
    (right : y.toModel.unpack = b) :
    (x / y).toModel = .pack (UnpackedFloat.div Format.binary64 a b) := by
  rw [← left, ← right]
  rfl

lemma sign_div (s t : Sign) : s / t = s * t := by
  cases s <;> cases t <;> rfl

lemma mul_positive (s : Sign) : s * .positive = s := by
  cases s <;> rfl

/-- A product is the exact one, rounded once. -/
theorem Denotes.mul (left : Denotes x s v) (right : Denotes y t w) :
    Rounded (x * y) (s * t) (v * w) := by
  obtain ⟨m₁, e₁, finite₁, unpacked₁, rfl⟩ := left
  obtain ⟨m₂, e₂, finite₂, unpacked₂, rfl⟩ := right
  apply rounded_of_roundWithAccuracy (toModel_mul unpacked₁ unpacked₂)
  · show _ = ((m₁ * m₂ : Nat) : ℚ)
    rw [zpow_add₀ two_ne_zero]
    push_cast
    field_simp
  · have := finite₁.pos
    have := finite₂.pos
    -- one normal operand gives 53 bits, two small ones an exponent that is small enough
    rcases finite₁.normal with normal | least
    · exact .inl (by nlinarith)
    · rcases finite₂.normal with normal' | least'
      · exact .inl (by nlinarith)
      · exact .inr (by omega)

/-- A quotient is the exact one, rounded once. -/
theorem Denotes.div (left : Denotes x s v) (right : Denotes y t w) :
    Rounded (x / y) (s * t) (v / w) := by
  obtain ⟨m₁, e₁, finite₁, unpacked₁, rfl⟩ := left
  obtain ⟨m₂, e₂, finite₂, unpacked₂, rfl⟩ := right
  obtain ⟨represents, enough⟩ := divCore_spec e₁ e₂ finite₁.pos finite₂.pos
  rw [← sign_div]
  exact rounded_of_roundWithAccuracy (toModel_div unpacked₁ unpacked₂) represents enough

/-- Negation is exact. -/
theorem Rounded.neg (rounded : Rounded x s r) : Rounded (-x) (-s) r := by
  have outcome : (-x).toModel = .pack x.toModel.unpack.neg := rfl
  cases rounded with
  | zero small unpacked =>
    exact .zero small (by rw [outcome, unpacked]; exact unpack_pack_zero _)
  | finite binary64 rounds unpacked =>
    exact .finite binary64 rounds (by rw [outcome, unpacked]; exact unpack_pack binary64 _)
  | infinity large unpacked =>
    exact .infinity large (by rw [outcome, unpacked]; exact unpack_pack_infinity _)

/-! ## Zeros and infinities -/

lemma unpack_zero_mul (left : x.toModel.unpack = .zero s) (right : Denotes y t w) :
    (x * y).toModel.unpack = .zero (s * t) := by
  obtain ⟨_, _, _, unpacked, _⟩ := right
  rw [toModel_mul left unpacked]
  exact unpack_pack_zero _

lemma unpack_infinity_mul (left : x.toModel.unpack = .infinity s) (right : Denotes y t w) :
    (x * y).toModel.unpack = .infinity (s * t) := by
  obtain ⟨_, _, _, unpacked, _⟩ := right
  rw [toModel_mul left unpacked]
  exact unpack_pack_infinity _

lemma unpack_mul_zero (left : Denotes x s v) (right : y.toModel.unpack = .zero t) :
    (x * y).toModel.unpack = .zero (s * t) := by
  obtain ⟨_, _, _, unpacked, _⟩ := left
  rw [toModel_mul unpacked right]
  exact unpack_pack_zero _

lemma unpack_mul_infinity (left : Denotes x s v) (right : y.toModel.unpack = .infinity t) :
    (x * y).toModel.unpack = .infinity (s * t) := by
  obtain ⟨_, _, _, unpacked, _⟩ := left
  rw [toModel_mul unpacked right]
  exact unpack_pack_infinity _

lemma unpack_zero_div (left : x.toModel.unpack = .zero s) (right : Denotes y t w) :
    (x / y).toModel.unpack = .zero (s * t) := by
  obtain ⟨_, _, _, unpacked, _⟩ := right
  rw [toModel_div left unpacked, ← sign_div]
  exact unpack_pack_zero _

lemma unpack_infinity_div (left : x.toModel.unpack = .infinity s) (right : Denotes y t w) :
    (x / y).toModel.unpack = .infinity (s * t) := by
  obtain ⟨_, _, _, unpacked, _⟩ := right
  rw [toModel_div left unpacked, ← sign_div]
  exact unpack_pack_infinity _

lemma unpack_div_zero (left : Denotes x s v) (right : y.toModel.unpack = .zero t) :
    (x / y).toModel.unpack = .infinity (s * t) := by
  obtain ⟨_, _, _, unpacked, _⟩ := left
  rw [toModel_div unpacked right, ← sign_div]
  exact unpack_pack_infinity _

lemma unpack_div_infinity (left : Denotes x s v) (right : y.toModel.unpack = .infinity t) :
    (x / y).toModel.unpack = .zero (s * t) := by
  obtain ⟨_, _, _, unpacked, _⟩ := left
  rw [toModel_div unpacked right, ← sign_div]
  exact unpack_pack_zero _

/-! ## Signs -/

theorem HasSign.mul (left : HasSign x s) (right : Denotes y t w) : HasSign (x * y) (s * t) := by
  cases left with
  | zero unpacked => exact .zero (unpack_zero_mul unpacked right)
  | finite denotes => exact (denotes.mul right).hasSign
  | infinity unpacked => exact .infinity (unpack_infinity_mul unpacked right)

theorem Denotes.mul_hasSign (left : Denotes x s v) (right : HasSign y t) :
    HasSign (x * y) (s * t) := by
  cases right with
  | zero unpacked => exact .zero (unpack_mul_zero left unpacked)
  | finite denotes => exact (left.mul denotes).hasSign
  | infinity unpacked => exact .infinity (unpack_mul_infinity left unpacked)

theorem HasSign.div (left : HasSign x s) (right : Denotes y t w) : HasSign (x / y) (s * t) := by
  cases left with
  | zero unpacked => exact .zero (unpack_zero_div unpacked right)
  | finite denotes => exact (denotes.div right).hasSign
  | infinity unpacked => exact .infinity (unpack_infinity_div unpacked right)

theorem Denotes.div_hasSign (left : Denotes x s v) (right : HasSign y t) :
    HasSign (x / y) (s * t) := by
  cases right with
  | zero unpacked => exact .infinity (unpack_div_zero left unpacked)
  | finite denotes => exact (left.div denotes).hasSign
  | infinity unpacked => exact .zero (unpack_div_infinity left unpacked)

/-! ## Integers -/

/-- Every natural in range rounds to some double. -/
lemma exists_roundsTo (pos : 0 < n) (lt : (n : ℚ) < overflowLimit) :
    ∃ m e, IsBinary64 m e ∧ RoundsTo m e n := by
  have represents :
      Represents (.ofMantissaAndAccuracy (n * 2 ^ 52) .exact) ((n : ℚ) / 2 ^ (-52 : Int)) := by
    show _ = ((n * 2 ^ 52 : Nat) : ℚ)
    rw [zpow_neg, div_inv_eq_mul]
    push_cast
    rfl
  have enough : 2 ^ 52 ≤ n * 2 ^ 52 ∨ (-52 : Int) ≤ -1074 := .inl (by omega)
  rcases roundWithAccuracy_rounds represents enough .positive with
    ⟨small, _⟩ | ⟨m, e, canonical, rounds, _⟩
  · have one_le : (1 : ℚ) ≤ n := by exact_mod_cast pos
    exact absurd small (not_le.2 (underflowLimit_lt_one.trans_le one_le))
  · exact ⟨m, e, rounds.isBinary64 canonical lt, rounds⟩

/-- A natural is rounded once. -/
theorem rounded_ofNat (pos : 0 < n) (lt : (n : ℚ) < overflowLimit) :
    Rounded (Float.ofNat n) .positive n := by
  obtain ⟨m, e, finite, rounds⟩ := exists_roundsTo pos lt
  have outcome : Float.ofNat n = .ofModel (.pack (.finite .positive m e finite.pos)) :=
    ofScientific_eq finite pos (k := 0) (by simpa using rounds) (by omega) (by decide)
  refine .finite finite rounds ?_
  rw [outcome]
  exact unpack_pack finite .positive

/-- The sign of an integer, positive for zero. -/
def signOf (n : Int) : Sign :=
  if n < 0 then .negative else .positive

lemma signOf_of_neg {n : Int} (negative : n < 0) : signOf n = .negative :=
  if_pos negative

lemma signOf_of_nonneg {n : Int} (nonneg : 0 ≤ n) : signOf n = .positive :=
  if_neg nonneg.not_gt

lemma signOf_eq_negative_iff {n : Int} : signOf n = .negative ↔ n < 0 := by
  refine ⟨fun sign => ?_, signOf_of_neg⟩
  by_contra nonneg
  rw [signOf_of_nonneg (not_lt.1 nonneg)] at sign
  cases sign

lemma signOf_mul {m n : Int} (hm : m ≠ 0) (hn : n ≠ 0) : signOf (m * n) = signOf m * signOf n := by
  rcases lt_or_gt_of_ne hm with hm | hm <;> rcases lt_or_gt_of_ne hn with hn | hn
  · rw [signOf_of_neg hm, signOf_of_neg hn, signOf_of_nonneg (mul_pos_of_neg_of_neg hm hn).le]
    rfl
  · rw [signOf_of_neg hm, signOf_of_nonneg hn.le, signOf_of_neg (mul_neg_of_neg_of_pos hm hn)]
    rfl
  · rw [signOf_of_nonneg hm.le, signOf_of_neg hn, signOf_of_neg (mul_neg_of_pos_of_neg hm hn)]
    rfl
  · rw [signOf_of_nonneg hm.le, signOf_of_nonneg hn.le, signOf_of_nonneg (mul_pos hm hn).le]
    rfl

/-- An integer other than zero is rounded once. -/
theorem rounded_ofInt {n : Int} (nonzero : n ≠ 0) (lt : (n.natAbs : ℚ) < overflowLimit) :
    Rounded (Float.ofInt n) (signOf n) n.natAbs := by
  cases n with
  | ofNat k =>
    rw [signOf_of_nonneg (show 0 ≤ Int.ofNat k from Int.natCast_nonneg k)]
    exact rounded_ofNat (Nat.pos_of_ne_zero fun zero => nonzero (congrArg Int.ofNat zero)) lt
  | negSucc k =>
    rw [signOf_of_neg (Int.negSucc_lt_zero k)]
    exact (rounded_ofNat k.succ_pos lt).neg

end Metrology.Magnitude
