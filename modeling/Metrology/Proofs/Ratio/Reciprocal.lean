import Metrology.Proofs.Ratio.Value

/-!
# Reciprocals of ratios

Zero has no reciprocal. Main statement: besides zero, only the ratios whose numerator is the least
word have none, since no positive word has its absolute value and could be the denominator. Any other
ratio times its reciprocal is one, and the reciprocal of its reciprocal is the ratio itself. Where
there is no reciprocal the forced form fails, with the same fault for both reasons.
-/

namespace Metrology.Ratio

/-- Numerator and denominator change places, and only the least word does not fit as a denominator. -/
lemma representable_inv_iff {r : Ratio} (nonzero : r.value ≠ 0) :
    Representable r.value⁻¹ ↔ r.num ≠ -9223372036854775808 := by
  have num_range : Fits64 r.num := r.num_range
  have den_lt : r.den < 9223372036854775808 := r.den_lt
  have num : r.value⁻¹.num = r.num.sign * r.den := Rat.num_inv r.value
  have den : r.value⁻¹.den = r.num.natAbs := Rat.den_inv_of_ne_zero nonzero
  rw [Representable, num, den]
  constructor
  · rintro ⟨_, fits⟩ least
    omega
  · intro above
    refine ⟨?_, by omega⟩
    rcases Int.lt_trichotomy r.num 0 with negative | zero | positive
    · rw [Int.sign_eq_neg_one_of_neg negative]
      omega
    · exact absurd (value_eq_zero_iff.2 zero) nonzero
    · rw [Int.sign_eq_one_of_pos positive]
      omega

lemma isSome_recip?_iff {r : Ratio} :
    r.recip?.isSome ↔ r.isZero = false ∧ r.num ≠ -9223372036854775808 := by
  rw [Option.isSome_iff_exists, ← value_ne_zero_iff]
  simp only [recip?_eq_some_iff, exists_and_left, exists_value_eq_iff]
  exact and_congr_right fun nonzero => representable_inv_iff nonzero

lemma mul?_of_recip? {r s : Ratio} (reciprocal : r.recip? = some s) : r.mul? s = some one := by
  obtain ⟨nonzero, inverse⟩ := recip?_eq_some_iff.1 reciprocal
  rw [mul?_eq_some_iff, inverse, mul_inv_cancel₀ nonzero]
  rfl

lemma recip?_of_recip? {r s : Ratio} (reciprocal : r.recip? = some s) : s.recip? = some r := by
  obtain ⟨nonzero, inverse⟩ := recip?_eq_some_iff.1 reciprocal
  rw [recip?_eq_some_iff, inverse, inv_inv]
  exact ⟨inv_ne_zero nonzero, rfl⟩

/-- The forced form fails exactly where there is no reciprocal, and always with the same fault. -/
lemma recip_eq_error_iff {r : Ratio} {fault : Fault} :
    r.recip = .error fault ↔ fault = .ratioReciprocal ∧ r.recip? = none := by
  rw [recip]
  cases r.recip? with
  | none => simp [eq_comm]
  | some s => simp

/-- A ratio has no reciprocal exactly if it is zero or its numerator is the least word, and the forced
form fails exactly then. Otherwise ratio and reciprocal multiply to one, and taking the reciprocal
twice leads back. -/
theorem recip?_inverts (r : Ratio) :
    (r.recip? = none ↔ r.isZero = true ∨ r.num = -9223372036854775808) ∧
    (∀ fault, r.recip = .error fault ↔
      fault = .ratioReciprocal ∧ (r.isZero = true ∨ r.num = -9223372036854775808)) ∧
    ∀ s, r.recip? = some s → r.mul? s = some one ∧ s.recip? = some r := by
  have absent : r.recip? = none ↔ r.isZero = true ∨ r.num = -9223372036854775808 := by
    rw [← Option.not_isSome_iff_eq_none, isSome_recip?_iff, not_and_or,
      Bool.not_eq_false, not_not]
  refine ⟨absent, ?_, ?_⟩
  · intro fault
    rw [recip_eq_error_iff, absent]
  · intro s reciprocal
    exact ⟨mul?_of_recip? reciprocal, recip?_of_recip? reciprocal⟩

/-- The least word is not zero, and yet it has no reciprocal; the forced form speaks of zero. -/
theorem not_recip?_least :
    ∃ r, ofWords? (-9223372036854775808) 1 = some r ∧
      ¬(r.recip? = none ↔ r.isZero = true) ∧
      ∃ fault, r.recip = .error fault ∧ fault.message = "reciprocal of a zero scale" := by
  let r : Ratio := ⟨-9223372036854775808, 1, by decide, by decide, by decide, by decide⟩
  have nonzero : r.isZero = false := rfl
  have absent : r.recip? = none := by decide +kernel
  refine ⟨r, by decide +kernel, ?_, .ratioReciprocal, recip_eq_error_iff.2 ⟨rfl, absent⟩, rfl⟩
  intro onlyZero
  exact Bool.false_ne_true (nonzero.symm.trans (onlyZero.1 absent))

end Metrology.Ratio
