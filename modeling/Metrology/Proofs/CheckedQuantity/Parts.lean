import Mathlib
import Metrology.Proofs.CheckedQuantity.Outcome
import Metrology.Proofs.Ratio.Exactness

/-!
# Quantities from loose parts

What becomes of a number, two words, an exponent and a list of exponents. Main statement: the number
of exponents is judged first, then a zero in the scale, then whether the scale has a ratio; and what
is accepted carries the parts as they were given, the scale in lowest terms.

A scale has no ratio only at the edge of the range of words, which has one more negative number than
positive ones: where the least word cannot be reduced and would have to change its sign
(`Ratio.representable_div_iff`). Since the least word is a power of two, whether it can be reduced is
a question of parity.
-/

namespace Metrology

/-! ## Fractions of words -/

namespace Ratio

variable {num den : Int}

/-- Whether two words have no ratio: the least word stands under an odd number, or over an odd
negative one. -/
def Unstorable (num den : Int) : Prop :=
  (den = -9223372036854775808 ∧ Odd num) ∨ (num = -9223372036854775808 ∧ den < 0 ∧ Odd den)

instance (num den : Int) : Decidable (Unstorable num den) :=
  inferInstanceAs (Decidable (_ ∨ _))

/-- The least word shares no factor with the odd numbers, and only with those. -/
lemma gcd_least_eq_one_iff {n : Int} : Int.gcd n (-9223372036854775808) = 1 ↔ Odd n := by
  show Nat.Coprime n.natAbs (2 ^ 63) ↔ Odd n
  rw [Nat.coprime_pow_right_iff (by norm_num), Nat.coprime_two_right, Int.natAbs_odd]

/-- What can be reduced has a ratio. -/
lemma not_unstorable_of_gcd (shared : Int.gcd num den ≠ 1) : ¬Unstorable num den := by
  rintro (⟨rfl, odd⟩ | ⟨rfl, _, odd⟩)
  · exact shared (gcd_least_eq_one_iff.2 odd)
  · rw [Int.gcd_comm] at shared
    exact shared (gcd_least_eq_one_iff.2 odd)

/-- Without a common factor, the least word must not change its sign. -/
lemma unstorable_iff_of_gcd (reduced : Int.gcd num den = 1) :
    Unstorable num den ↔ den = -9223372036854775808 ∨ (num = -9223372036854775808 ∧ den < 0) := by
  constructor
  · exact Or.imp And.left fun ⟨least, negative, _⟩ => ⟨least, negative⟩
  · rintro (rfl | ⟨rfl, negative⟩)
    · exact .inl ⟨rfl, gcd_least_eq_one_iff.1 reduced⟩
    · rw [Int.gcd_comm] at reduced
      exact .inr ⟨rfl, negative, gcd_least_eq_one_iff.1 reduced⟩

/-- Two words have a ratio unless the least word cannot be reduced and would change its sign. -/
lemma representable_div_iff (num_range : Fits64 num) (den_range : Fits64 den) (nonzero : den ≠ 0) :
    Representable (num / den) ↔ ¬Unstorable num den := by
  obtain ⟨num_low, den_low⟩ := lowestTerms_parts num nonzero
  rw [Representable, ← num_low, ← den_low]
  by_cases reduced : Int.gcd num den = 1
  · rw [unstorable_iff_of_gcd reduced]
    simp only [lowestTerms, reduced, Nat.cast_one, Int.ediv_one, Nat.div_one]
    rcases lt_or_gt_of_ne nonzero with negative | positive
    · rw [Int.sign_eq_neg_one_of_neg negative]
      omega
    · rw [Int.sign_eq_one_of_pos positive]
      omega
  · -- a common factor takes both parts well into the range
    refine iff_of_true ?_ (not_unstorable_of_gcd reduced)
    have two_le : 2 ≤ Int.gcd num den := by
      have := Int.gcd_pos_of_ne_zero_right num nonzero
      omega
    have unsigned := natAbs_lowestTerms num nonzero
    have num_half : num.natAbs / Int.gcd num den ≤ num.natAbs / 2 :=
      Nat.div_le_div_left two_le (by norm_num)
    have den_half : den.natAbs / Int.gcd num den ≤ den.natAbs / 2 :=
      Nat.div_le_div_left two_le (by norm_num)
    have den_eq : (lowestTerms num den).2 = den.natAbs / Int.gcd num den := rfl
    omega

/-- Two words with a denominator other than zero make up a ratio unless they have none. -/
lemma ofWords?_eq_none_iff {num den : Int64} (nonzero : den ≠ 0) :
    ofWords? num den = none ↔ Unstorable num.toInt den.toInt := by
  have den_ne : den.toInt ≠ 0 := fun zero => nonzero (Int64.toInt_inj.1 zero)
  rw [← Option.not_isSome_iff_eq_none, (ofWords?_answersExactly num den).isSome_iff,
    and_iff_right nonzero, representable_div_iff ⟨num.le_toInt, num.toInt_lt⟩
      ⟨den.le_toInt, den.toInt_lt⟩ den_ne, not_not]

/-- The ratio of two words is the same fraction. -/
lemma cross_eq_of_ofWords? {num den : Int64} {r : Ratio} (stored : ofWords? num den = some r) :
    r.num * den.toInt = num.toInt * r.den := by
  obtain ⟨nonzero, value⟩ := ofWords?_eq_some_iff.1 stored
  have den_ne : (den.toInt : ℚ) ≠ 0 :=
    Int.cast_ne_zero.2 fun zero => nonzero (Int64.toInt_inj.1 zero)
  rw [r.value_eq_div, div_eq_div_iff (Nat.cast_ne_zero.2 r.den_pos.ne') den_ne] at value
  exact_mod_cast value

end Ratio

/-! ## Loose parts -/

namespace CheckedQuantity

/-- Every input has one outcome: a wrong number of exponents is refused whatever the scale is, then a
zero in the scale, which is recorded, then a scale that has no ratio; and all others make up a
quantity of the parts that were given, with the scale in lowest terms. -/
theorem ofParts_decides (x : Float) (num den : Int64) (e : Exponent) (es : List Exponent) :
    (es.length ≠ 7 → ofParts x num den e es = .refuse (.shapeMismatch 7 es.length)) ∧
    (es.length = 7 → num = 0 ∨ den = 0 →
      ofParts x num den e es = .reject (.zeroScale num den) (.zeroScale num den)) ∧
    (es.length = 7 → num ≠ 0 → den ≠ 0 →
      (ofParts x num den e es = .refuse .overflow ↔ Ratio.Unstorable num.toInt den.toInt) ∧
      (¬Ratio.Unstorable num.toInt den.toInt →
        ∃ q, ofParts x num den e es = .accept q ∧
          q.magnitude = x ∧ q.identity.exponent = e ∧ q.identity.dimension.exponents.toList = es ∧
          0 < q.identity.ratio.den ∧ q.identity.ratio.num.natAbs.Coprime q.identity.ratio.den ∧
          q.identity.ratio.num * den.toInt = num.toInt * q.identity.ratio.den)) := by
  refine ⟨ofParts_of_shape, ofParts_of_zero, fun seven num_ne den_ne => ?_⟩
  obtain ⟨table, shape⟩ := Option.isSome_iff_exists.1 (PerBase.ofList?_isSome_iff.2 seven)
  have outcome := ofParts_of_nonzero (x := x) (e := e) shape (not_or.2 ⟨num_ne, den_ne⟩)
  cases stored : Ratio.ofWords? num den with
  | none =>
    rw [stored] at outcome
    have unstorable := (Ratio.ofWords?_eq_none_iff den_ne).1 stored
    exact ⟨iff_of_true outcome unstorable, fun storable => absurd unstorable storable⟩
  | some ratio =>
    rw [stored] at outcome
    have storable : ¬Ratio.Unstorable num.toInt den.toInt := fun unstorable => by
      cases stored.symm.trans ((Ratio.ofWords?_eq_none_iff den_ne).2 unstorable)
    refine ⟨iff_of_false ?_ storable, fun _ => ⟨_, outcome, rfl, rfl, ?_, ratio.den_pos,
      ratio.reduced, ?_⟩⟩
    · rw [outcome]
      nofun
    · exact PerBase.toList_of_ofList? shape
    · exact Ratio.cross_eq_of_ofWords? stored

/-- The least word under three is no scale, and neither is the least word over minus three; under six
it is, in lowest terms. Where the scale is zero as well, four exponents are refused first. -/
theorem ofParts_decides_least :
    let least : Int64 := -9223372036854775808
    let seven : List Exponent := [.one, .zero, .zero, .zero, .zero, .zero, .zero]
    let four : List Exponent := [.one, .zero, .zero, .zero]
    ofParts 1 0 least .zero four = .refuse (.shapeMismatch 7 4) ∧
      ofParts 1 0 least .zero seven = .reject (.zeroScale 0 least) (.zeroScale 0 least) ∧
      ofParts 1 3 least .zero seven = .refuse .overflow ∧
      ofParts 1 least (-3) .zero seven = .refuse .overflow ∧
      ∃ q, ofParts 1 6 least .zero seven = .accept q ∧ q.magnitude = 1 ∧
        q.identity.exponent = .zero ∧ q.identity.dimension.exponents.toList = seven ∧
        0 < q.identity.ratio.den ∧ q.identity.ratio.num.natAbs.Coprime q.identity.ratio.den ∧
        q.identity.ratio.num * least.toInt = 6 * q.identity.ratio.den := by
  intro least seven four
  have storable : ¬Ratio.Unstorable (6 : Int64).toInt least.toInt := by decide
  exact ⟨(ofParts_decides 1 0 least .zero four).1 (by decide),
    (ofParts_decides 1 0 least .zero seven).2.1 rfl (.inl rfl),
    ((ofParts_decides 1 3 least .zero seven).2.2 rfl (by decide) (by decide)).1.2 (by decide),
    ((ofParts_decides 1 least (-3) .zero seven).2.2 rfl (by decide) (by decide)).1.2 (by decide),
    ((ofParts_decides 1 6 least .zero seven).2.2 rfl (by decide) (by decide)).2 storable⟩

end CheckedQuantity

end Metrology
