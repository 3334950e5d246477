import Metrology.Proofs.Identity.Formal

/-!
# Powers of identities as repeated steps

A power takes one reciprocal of the ratio and one product for each exponent. Repeated multiplication
or division composes the whole identity at every step and asks each time whether it fits. Main
statement: the two answer alike, refusals included (`pow?_eq_repeat_mul?`, `pow?_eq_repeat_div?`).

The reason is the same for ratio, power of ten and dimension: on the way from zero to a power that
fits, every power fits. `FormalIdentity.Fits.pow_of_le` says so for steps of either sign.
-/

namespace Metrology

/-- Multiples up to one that fits a word fit as well. -/
lemma Fits32.mul_of_le {d : Int} {k n : Nat} (fits : Fits32 (d * n)) (le : k ≤ n) :
    Fits32 (d * k) := by
  have le : (k : Int) ≤ n := Int.ofNat_le.2 le
  rcases Int.le_total 0 d with upward | downward
  · have low : 0 ≤ d * k := mul_nonneg upward (Int.natCast_nonneg k)
    have high : d * k ≤ d * n := mul_le_mul_of_nonneg_left le upward
    omega
  · have low : d * n ≤ d * k := mul_le_mul_of_nonpos_left le downward
    have high : d * k ≤ 0 := mul_nonpos_of_nonpos_of_nonneg downward (Int.natCast_nonneg k)
    omega

namespace FormalIdentity

variable {x : FormalIdentity}

/-- Powers on the way to one that fits, in steps of either sign, fit as well. -/
lemma Fits.pow_of_le {sign : Int} {k n : Nat} (fits : (x ^ (sign * n)).Fits) (le : k ≤ n) :
    (x ^ (sign * k)).Fits where
  ratio := by
    have whole : Ratio.Representable (x.ratio ^ (sign * n)) := fits.ratio
    rw [zpow_mul, zpow_natCast] at whole
    show Ratio.Representable (x.ratio ^ (sign * k))
    rw [zpow_mul, zpow_natCast]
    exact whole.pow_of_le le
  exponent := by
    have whole : Fits32 (x.exponent * (sign * n)) := fits.exponent
    rw [← mul_assoc] at whole
    show Fits32 (x.exponent * (sign * k))
    rw [← mul_assoc]
    exact whole.mul_of_le le
  dimension q := by
    have whole : Fits32 ((x.dimension ^ (sign * n)).exponent q) := fits.dimension q
    rw [FormalDimension.exponent_pow, ← mul_assoc] at whole
    show Fits32 ((x.dimension ^ (sign * k)).exponent q)
    rw [FormalDimension.exponent_pow, ← mul_assoc]
    exact whole.mul_of_le le

/-- One more step upwards. -/
lemma pow_mul_self (x : FormalIdentity) (k : Nat) :
    x ^ (1 * k : Int) * x = x ^ (1 * (k + 1) : Int) := by
  ext q
  · show x.ratio ^ (1 * k : Int) * x.ratio = x.ratio ^ (1 * (k + 1) : Int)
    rw [one_mul, one_mul, zpow_natCast, ← pow_succ, ← zpow_natCast, Nat.cast_succ]
  · show x.exponent * (1 * k) + x.exponent = x.exponent * (1 * (k + 1))
    ring
  · show (x.dimension ^ (1 * k : Int) * x.dimension).exponent q =
      (x.dimension ^ (1 * (k + 1) : Int)).exponent q
    rw [FormalDimension.exponent_mul, FormalDimension.exponent_pow, FormalDimension.exponent_pow]
    ring

/-- One more step downwards. -/
lemma pow_div_self (x : FormalIdentity) (k : Nat) :
    x ^ (-1 * k : Int) / x = x ^ (-1 * (k + 1) : Int) := by
  ext q
  · show x.ratio ^ (-1 * k : Int) / x.ratio = x.ratio ^ (-1 * (k + 1) : Int)
    rw [neg_one_mul, neg_one_mul, zpow_neg, zpow_neg, ← Nat.cast_succ, zpow_natCast, zpow_natCast,
      pow_succ, mul_inv, div_eq_mul_inv]
  · show x.exponent * (-1 * k) - x.exponent = x.exponent * (-1 * (k + 1))
    ring
  · show (x.dimension ^ (-1 * k : Int) / x.dimension).exponent q =
      (x.dimension ^ (-1 * (k + 1) : Int)).exponent q
    rw [FormalDimension.exponent_div, FormalDimension.exponent_pow, FormalDimension.exponent_pow]
    ring

end FormalIdentity

namespace Identity

/-- Plain numbers are where the steps begin. -/
lemma scalar_formal_eq_pow (x : FormalIdentity) (sign : Int) :
    scalar.formal = x ^ (sign * (0 : Nat)) := by
  rw [formal_eq_iff]
  refine ⟨?_, ?_, ?_⟩
  · show (1 : Rat) = x.ratio ^ (sign * (0 : Nat))
    simp
  · show 0 = x.exponent * (sign * (0 : Nat))
    simp
  · apply Dimension.formal_eq_iff.2
    intro q
    show _ = (x.dimension ^ (sign * (0 : Nat))).exponent q
    simp [scalar, Dimension.dimensionless, Dimension.exponent, Exponent.zero]

/-- Repeating a step that composes one more power composes all of them, and is refused on the way
only if the last power is. -/
lemma repeat_eq_some_iff {f : Identity → Option Identity} (x : FormalIdentity) (sign : Int)
    (regular : Prop)
    (step : ∀ {k : Nat} {a c : Identity}, a.formal = x ^ (sign * k) →
      (f a = some c ↔ regular ∧ c.formal = x ^ (sign * (k + 1))))
    {n : Nat} {c : Identity} :
    Nat.repeat (·.bind f) n (some scalar) = some c ↔
      (0 < n → regular) ∧ c.formal = x ^ (sign * n) := by
  induction n generalizing c with
  | zero =>
    rw [← scalar_formal_eq_pow]
    simp only [Nat.repeat, Option.some.injEq, Nat.lt_irrefl, false_implies, true_and]
    exact ⟨fun h => h ▸ rfl, fun h => (formal_injective h).symm⟩
  | succ n ih =>
    simp only [Nat.repeat, Option.bind_eq_some_iff, ih, Nat.succ_pos, forall_const, Nat.cast_succ]
    constructor
    · rintro ⟨a, ⟨_, partialPower⟩, rest⟩
      exact (step partialPower).1 rest
    · rintro ⟨holds, whole⟩
      -- the last power fits, so the one before it does and has an identity to go on from
      have fits : (x ^ (sign * (n + 1 : Nat))).Fits := by
        rw [Nat.cast_succ, ← whole]
        exact c.formal_fits
      obtain ⟨a, partialPower⟩ := exists_formal_eq_iff.2 (fits.pow_of_le n.le_succ)
      exact ⟨a, ⟨fun _ => holds, partialPower⟩, (step partialPower).2 ⟨holds, whole⟩⟩

/-- A power that is not negative is a repeated product. -/
lemma pow?_eq_repeat_mul? (i : Identity) {n : Exponent} (nonneg : 0 ≤ n.toInt) :
    i.pow? n = Nat.repeat (·.bind (·.mul? i)) n.toInt.natAbs (some scalar) := by
  apply Option.ext
  intro c
  have count : 1 * (n.toInt.natAbs : Int) = n.toInt := by omega
  rw [pow?_eq_some_iff, repeat_eq_some_iff i.formal 1 True, count]
  · simp [not_lt_of_ge nonneg]
  · intro k a c partialPower
    rw [mul?_eq_some_iff, partialPower, FormalIdentity.pow_mul_self, true_and]

/-- A negative power is a repeated quotient. -/
lemma pow?_eq_repeat_div? (i : Identity) {n : Exponent} (negative : n.toInt < 0) :
    i.pow? n = Nat.repeat (·.bind (·.div? i)) n.toInt.natAbs (some scalar) := by
  apply Option.ext
  intro c
  have count : -1 * (n.toInt.natAbs : Int) = n.toInt := by omega
  rw [pow?_eq_some_iff, repeat_eq_some_iff i.formal (-1) (i.ratio.value ≠ 0), count]
  · simp [negative, Int.ne_of_lt negative]
  · intro k a c partialPower
    rw [div?_eq_some_iff, partialPower, FormalIdentity.pow_div_self]

end Identity

end Metrology
