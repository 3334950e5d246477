import Mathlib
import Metrology.Proofs.Magnitude.Negation
import Metrology.Proofs.Magnitude.PowersOfTen

/-!
# Powers of doubles

A power is formed in up to `2 ^ 31` steps, each a product with the base or, for a negative exponent, a
quotient by it. Main statement: a power is a NaN only if its base is one and there is a step at all;
and to negate the base is to change the sign of the odd powers and no bit of the even ones.

No step meets zero times infinity, zero over zero or infinity over infinity. With a finite base other
than zero this is clear of any step (`HasSign.mul`, `HasSign.div`). A base that is zero or infinite
becomes the partial result after one step, or its reciprocal does, and stays it (`unpack_repeat`).
-/

namespace Metrology.Magnitude

open Float.Model Float.Model.UnpackedFloat

variable {x y a : Float} {s t : Sign} {n : Exponent} {k : Nat}

/-! ## Steps -/

/-- One step on the way to a power. -/
def powerStep (x : Float) (n : Exponent) (a : Float) : Float :=
  if n.toInt < 0 then a / x else a * x

lemma power_eq_repeat (x : Float) (n : Exponent) :
    power x n = Nat.repeat (powerStep x n) n.toInt.natAbs 1 := by
  rw [power, natInverse, natPower, iterate_eq, iterate_eq]
  by_cases negative : n.toInt < 0
  · have steps : powerStep x n = (· / x) := funext fun a => if_pos negative
    rw [if_pos negative, steps]
  · have steps : powerStep x n = (· * x) := funext fun a => if_neg negative
    rw [if_neg negative, steps]

/-! ## Signs -/

/-- Either operand of a step can be negated, and the result is. -/
lemma powerStep_neg (x : Float) (n : Exponent) (a : Float) :
    powerStep (-x) n a = -powerStep x n a ∧ powerStep x n (-a) = -powerStep x n a := by
  unfold powerStep
  split
  · exact neg_of_div a x
  · exact neg_of_mul a x

/-- Steps with the negated base change the sign in turn. -/
lemma repeat_neg (x : Float) (n : Exponent) (k : Nat) :
    Nat.repeat (powerStep (-x) n) k 1 =
      if Even k then Nat.repeat (powerStep x n) k 1 else -Nat.repeat (powerStep x n) k 1 := by
  induction k with
  | zero => rfl
  | succ k ih =>
    rw [Nat.repeat, Nat.repeat, ih, (powerStep_neg x n _).1]
    by_cases even : Even k
    · rw [if_pos even, if_neg (by rwa [Nat.even_add_one, not_not])]
    · rw [if_neg even, if_pos (Nat.even_add_one.2 even), (powerStep_neg x n _).2, neg_of_neg]

/-- A power of the negated base is the power, negated where the exponent is odd. -/
theorem power_neg (x : Float) (n : Exponent) :
    power (-x) n = if Even n.toInt then power x n else -power x n := by
  simp only [power_eq_repeat, repeat_neg, Int.natAbs_even]

/-! ## Bases without a finite value -/

/-- The two kinds of doubles whose product with themselves is of the same kind again, whatever the
signs. -/
inductive Absorbing : (Sign → UnpackedFloat) → Prop where
  | zero : Absorbing .zero
  | infinity : Absorbing .infinity

variable {kind : Sign → UnpackedFloat}

lemma Absorbing.hasSign (absorbing : Absorbing kind) (unpacked : x.toModel.unpack = kind s) :
    HasSign x s := by
  cases absorbing with
  | zero => exact .zero unpacked
  | infinity => exact .infinity unpacked

/-- A finite number goes over to the kind of the factor. -/
lemma Absorbing.mul_finite {v : ℚ} (absorbing : Absorbing kind) (left : Denotes a s v)
    (right : x.toModel.unpack = kind t) : (a * x).toModel.unpack = kind (s * t) := by
  cases absorbing with
  | zero => exact unpack_mul_zero left right
  | infinity => exact unpack_mul_infinity left right

lemma Absorbing.mul_same (absorbing : Absorbing kind) (left : a.toModel.unpack = kind s)
    (right : x.toModel.unpack = kind t) : (a * x).toModel.unpack = kind (s * t) := by
  rw [toModel_mul left right]
  cases absorbing with
  | zero => exact unpack_pack_zero (s * t)
  | infinity => exact unpack_pack_infinity (s * t)

/-- Once reached, the kind of the base is kept by every further product. -/
lemma Absorbing.unpack_repeat (absorbing : Absorbing kind) (base : x.toModel.unpack = kind t)
    (k : Nat) : ∃ s, (Nat.repeat (· * x) (k + 1) 1).toModel.unpack = kind s := by
  induction k with
  | zero => exact ⟨_, absorbing.mul_finite denotes_one base⟩
  | succ k ih =>
    obtain ⟨s, reached⟩ := ih
    exact ⟨_, absorbing.mul_same reached base⟩

lemma div_eq_mul {u w : UnpackedFloat} (base : x.toModel.unpack = u)
    (reciprocal : y.toModel.unpack = w)
    (same : ∀ v, UnpackedFloat.div Format.binary64 v u = UnpackedFloat.mul Format.binary64 v w)
    (a : Float) : a / x = a * y := by
  have outcome : (a / x).toModel = (a * y).toModel := by
    rw [toModel_div rfl base, toModel_mul rfl reciprocal, same]
  exact congrArg Float.ofModel outcome

/-- To divide by zero or by infinity is to multiply by its reciprocal, whatever is divided. -/
lemma Absorbing.exists_reciprocal (absorbing : Absorbing kind) (base : x.toModel.unpack = kind t) :
    ∃ y kind', Absorbing kind' ∧ y.toModel.unpack = kind' (.positive * t) ∧ ∀ a, a / x = a * y := by
  cases absorbing with
  | zero =>
    have reciprocal := unpack_div_zero denotes_one base
    refine ⟨1 / x, .infinity, .infinity, reciprocal, div_eq_mul base reciprocal ?_⟩
    intro v
    cases v <;> cases t <;> rfl
  | infinity =>
    have reciprocal := unpack_div_infinity denotes_one base
    refine ⟨1 / x, .zero, .zero, reciprocal, div_eq_mul base reciprocal ?_⟩
    intro v
    cases v <;> cases t <;> rfl

/-! ## Powers that have a value -/

/-- With a finite base other than zero every step leads from a value to a value. -/
lemma Denotes.hasSign_repeat {v : ℚ} (base : Denotes x t v) (n : Exponent) (k : Nat) :
    ∃ s, HasSign (Nat.repeat (powerStep x n) k 1) s := by
  induction k with
  | zero => exact ⟨_, .finite denotes_one⟩
  | succ k ih =>
    obtain ⟨s, sign⟩ := ih
    rw [Nat.repeat, powerStep]
    split
    · exact ⟨_, sign.div base⟩
    · exact ⟨_, sign.mul base⟩

/-- With a base that is zero or infinite, all steps are products with one factor of this sort. -/
lemma Absorbing.hasSign_repeat (absorbing : Absorbing kind) (base : x.toModel.unpack = kind t)
    (n : Exponent) (k : Nat) : ∃ s, HasSign (Nat.repeat (powerStep x n) k 1) s := by
  obtain ⟨y, kind', t', absorbing', factor, steps⟩ : ∃ y kind' t', Absorbing kind' ∧
      y.toModel.unpack = kind' t' ∧ powerStep x n = (· * y) := by
    by_cases negative : n.toInt < 0
    · obtain ⟨y, kind', absorbing', factor, same⟩ := absorbing.exists_reciprocal base
      exact ⟨y, kind', _, absorbing', factor, funext fun a => (if_pos negative).trans (same a)⟩
    · exact ⟨x, kind, t, absorbing, base, funext fun a => if_neg negative⟩
  rw [steps]
  cases k with
  | zero => exact ⟨_, .finite denotes_one⟩
  | succ k =>
    obtain ⟨s, reached⟩ := absorbing'.unpack_repeat factor k
    exact ⟨s, absorbing'.hasSign reached⟩

lemma isNaN_iff_unpack : x.isNaN = true ↔ x.toModel.unpack = .notANumber := by
  show x.toModel.unpack.isNaN = true ↔ _
  cases x.toModel.unpack <;> simp [UnpackedFloat.isNaN]

/-- A power of a number is a number. -/
theorem isNaN_power_of_number (number : x.isNaN = false) (n : Exponent) :
    (power x n).isNaN = false := by
  rw [power_eq_repeat]
  obtain ⟨s, sign⟩ : ∃ s, HasSign (Nat.repeat (powerStep x n) n.toInt.natAbs 1) s := by
    cases unpacked : x.toModel.unpack with
    | notANumber =>
      rw [isNaN_iff_unpack.2 unpacked] at number
      cases number
    | zero t => exact Absorbing.zero.hasSign_repeat unpacked n _
    | infinity t => exact Absorbing.infinity.hasSign_repeat unpacked n _
    | finite t m e pos => exact (denotes_of_unpack unpacked).hasSign_repeat n _
  exact sign.isNaN

/-- A step with a NaN leads to a NaN. -/
lemma isNaN_powerStep (nan : x.isNaN = true) (n : Exponent) (a : Float) :
    (powerStep x n a).isNaN = true := by
  rw [isNaN_iff_unpack] at nan
  have absent : (Float.Model.pack .notANumber).unpack = .notANumber := rfl
  rw [isNaN_iff_unpack, powerStep]
  split
  · rw [toModel_div rfl nan]
    cases a.toModel.unpack <;> exact absent
  · rw [toModel_mul rfl nan]
    cases a.toModel.unpack <;> exact absent

/-- A power is a NaN exactly if its base is one and the exponent is not zero. -/
theorem isNaN_power_iff (x : Float) (n : Exponent) :
    (power x n).isNaN = true ↔ x.isNaN = true ∧ n.toInt ≠ 0 := by
  constructor
  · intro nan
    refine ⟨?_, ?_⟩
    · by_contra number
      rw [isNaN_power_of_number (Bool.eq_false_of_not_eq_true number) n] at nan
      cases nan
    · intro zero
      have one : power x n = 1 := by
        rw [power_eq_repeat, zero]
        rfl
      rw [one, (HasSign.finite denotes_one).isNaN] at nan
      cases nan
  · rintro ⟨nan, nonzero⟩
    obtain ⟨k, count⟩ := Nat.exists_eq_succ_of_ne_zero (Int.natAbs_ne_zero.2 nonzero)
    rw [power_eq_repeat, count]
    exact isNaN_powerStep nan n _

/-- A power is a NaN exactly if its base is one and the exponent is not zero. For a base that is a
number, finite or not, the negated base has the same even powers, bit by bit, and the odd ones differ
in the sign bit alone. -/
theorem power_isNaN_and_parity (x : Float) (n : Exponent) :
    ((power x n).isNaN = true ↔ x.isNaN = true ∧ n.toInt ≠ 0) ∧
    (x.isNaN = false →
      (Even n.toInt → (power (-x) n).toBits = (power x n).toBits) ∧
      (Odd n.toInt → (power (-x) n).toBits = (power x n).toBits ^^^ signBit)) := by
  refine ⟨isNaN_power_iff x n, ?_⟩
  intro number
  refine ⟨?_, ?_⟩
  · intro even
    rw [power_neg, if_pos even]
  · intro odd
    rw [power_neg, if_neg (Int.not_even_iff_odd.2 odd), toBits_neg (isNaN_power_of_number number n)]

/-- Zero to the least exponent and to the one above it: infinity, with the sign of the base for the odd
one. -/
theorem power_parity_zero :
    let least : Exponent := ⟨-2147483648, by decide⟩
    let above : Exponent := ⟨-2147483647, by decide⟩
    (0 : Float).isNaN = false ∧ Even least.toInt ∧ Odd above.toInt ∧
      (power (-0) least).toBits = (power 0 least).toBits ∧
      (power (-0) above).toBits = (power 0 above).toBits ^^^ signBit ∧
      power 0 above = 1 / 0 := by
  intro least above
  have number : (0 : Float).isNaN = false := by decide +kernel
  have even : Even least.toInt := by decide
  have odd : Odd above.toInt := by decide
  exact ⟨number, even, odd, ((power_isNaN_and_parity 0 least).2 number).1 even,
    ((power_isNaN_and_parity 0 above).2 number).2 odd, by decide +kernel⟩

end Metrology.Magnitude
