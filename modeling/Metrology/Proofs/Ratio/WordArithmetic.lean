import Metrology.Proofs.Ratio.Exactness
import Metrology.Proofs.Ratio.WordRatio

/-!
# Ratio arithmetic on machine words

Ratios are fractions of unbounded integers that happen to fit, and the machine has words only. Main
statement: no step of any operation on ratios is a trap, and what the machine ends with are the words
of the unbounded result (`Follows`). It rests on one bound (`Formed`): the fractions that reach
reduction have parts of absolute value at most `2 ^ 126`, one bit short of a signed word, so that a
sign can be changed and the greatest common divisor read as a signed word.
-/

namespace Metrology

open WideWord

/-! ## Ratios on words -/

namespace Ratio

/-- The parts of a ratio as words. -/
def onWords (r : Ratio) : WordRatio :=
  ⟨.ofInt r.num, .ofInt r.den⟩

@[simp] lemma toInt_onWords_num (r : Ratio) : r.onWords.num.toInt = r.num :=
  Int64.toInt_ofInt_of_le r.num_range.1 r.num_range.2

@[simp] lemma toInt_onWords_den (r : Ratio) : r.onWords.den.toInt = r.den := by
  have := r.den_lt
  exact Int64.toInt_ofInt_of_le (by omega) (by omega)

end Ratio

/-- An answer on words that follows one of the unbounded computation: no step was a trap, and the
answer has the same parts. -/
def Follows (answer : WordRatio.Answer) (exact : Option Ratio) : Prop :=
  answer = .ok (exact.map Ratio.onWords)

/-- A fraction of wide words that is the one of two integers, with a bit to spare: the sign can be
changed, and what the parts share can be read as a signed word. -/
structure Formed (raw : WordRatio.Raw) (num den : Int) : Prop where
  words : raw = .ok (.ofInt 128 num, .ofInt 128 den)
  num_le : num.natAbs ≤ 2 ^ 126
  den_le : den.natAbs ≤ 2 ^ 126
  divisor : den ≠ 0 → ∃ g, gcd (BitVec.ofInt 128 num).abs (BitVec.ofInt 128 den).abs = .ok g ∧
    1 ≤ g.toNat ∧ g.toNat ≤ 2 ^ 126

namespace WordRatio

variable {num den : Int}

/-- The sign is moved without overflow. -/
lemma moveSign_ofInt (num_le : num.natAbs ≤ 2 ^ 126) (den_le : den.natAbs ≤ 2 ^ 126)
    (nonzero : den ≠ 0) :
    moveSign (.ofInt 128 num) (.ofInt 128 den) =
      .ok (.ofInt 128 (den.sign * num), .ofInt 128 den.natAbs) := by
  have negative : (BitVec.ofInt 128 den).slt 0 = decide (den < 0) :=
    slt_ofInt (y := 0) (by omega) (by decide)
  simp only [moveSign, negative, decide_eq_true_eq]
  rcases Int.lt_or_gt_of_ne nonzero with below | above
  · rw [if_pos below, neg_ofInt (by omega) (by omega), neg_ofInt (by omega) (by omega),
      Int.sign_eq_neg_one_of_neg below, Int.neg_one_mul, Int.ofNat_natAbs_of_nonpos below.le]
    rfl
  · rw [if_neg (by omega), Int.sign_eq_one_of_pos above, Int.one_mul,
      Int.natAbs_of_nonneg above.le]
    rfl

/-- What is stored has lost nothing, and it is stored exactly if it fits. -/
lemma store_ofInt {d : Nat} (num_le : num.natAbs ≤ 2 ^ 126) (den_le : d ≤ 2 ^ 126) :
    store (.ofInt 128 num) (.ofInt 128 d) =
      .ok (if Fits64 num ∧ d < 9223372036854775808 then some ⟨.ofInt num, .ofInt d⟩ else none) := by
  have least : (BitVec.ofInt 128 num).slt (widen .minValue) = decide (num < -2 ^ 63) := by
    rw [widen_eq_ofInt]
    exact slt_ofInt (by omega) (by decide)
  have greatest {x : Int} (fits : Fits128 x) :
      (widen .maxValue).slt (BitVec.ofInt 128 x) = decide (2 ^ 63 - 1 < x) := by
    rw [widen_eq_ofInt]
    exact slt_ofInt (by decide) fits
  simp only [store, least, greatest (x := num) (by omega), greatest (x := d) (by omega),
    decide_eq_true_eq]
  by_cases fits : Fits64 num ∧ d < 9223372036854775808
  · rw [if_neg (by omega), if_pos fits, narrow_ofInt fits.1, narrow_ofInt (by omega)]
    rfl
  · rw [if_pos (by omega), if_neg fits]
    rfl

/-- What a fraction is divided by is at least one, and not above the bound on its parts. -/
lemma gcd_bounds (num : Int) (den_le : den.natAbs ≤ 2 ^ 126) (nonzero : den ≠ 0) :
    1 ≤ num.gcd den ∧ num.gcd den ≤ 2 ^ 126 := by
  refine ⟨Int.gcd_pos_of_ne_zero_right _ nonzero, ?_⟩
  exact (Nat.le_of_dvd (Int.natAbs_pos.2 nonzero) (Nat.gcd_dvd_right _ _)).trans den_le

/-- Lowest terms are formed by two divisions before the sign is moved. -/
lemma lowestTerms_eq (nonzero : den ≠ 0) :
    Ratio.lowestTerms num den =
      ((den / num.gcd den).sign * (num / num.gcd den), (den / num.gcd den).natAbs) := by
  obtain ⟨q, whole⟩ : (num.gcd den : Int) ∣ den := Int.gcd_dvd_right ..
  have positive : (0 : Int) < num.gcd den := by
    exact_mod_cast Int.gcd_pos_of_ne_zero_right _ nonzero
  have quotient : den / num.gcd den = q := Int.ediv_eq_of_eq_mul_right positive.ne' whole
  have sign : den.sign = q.sign := by
    rw [whole, Int.sign_mul, Int.sign_eq_one_of_pos positive, Int.one_mul]
  have size : den.natAbs / num.gcd den = q.natAbs := by
    rw [← quotient, Int.natAbs_ediv_of_dvd ⟨q, whole⟩, Int.natAbs_natCast]
  rw [Ratio.lowestTerms, quotient, sign, size]

/-- Lowest terms are no larger than what they come from. -/
lemma lowestTerms_le (num : Int) (nonzero : den ≠ 0) :
    (Ratio.lowestTerms num den).1.natAbs ≤ num.natAbs ∧
      (Ratio.lowestTerms num den).2 ≤ den.natAbs := by
  rw [Ratio.natAbs_lowestTerms num nonzero]
  exact ⟨Nat.div_le_self .., Nat.div_le_self ..⟩

/-- The two quotients end as the lowest terms. -/
lemma moveSign_lowestTerms (num_le : num.natAbs ≤ 2 ^ 126) (den_le : den.natAbs ≤ 2 ^ 126)
    (nonzero : den ≠ 0) :
    moveSign (.ofInt 128 (num / num.gcd den)) (.ofInt 128 (den / num.gcd den)) =
      .ok (.ofInt 128 (Ratio.lowestTerms num den).1, .ofInt 128 (Ratio.lowestTerms num den).2) := by
  have low_pos : 0 < (Ratio.lowestTerms num den).2 := Ratio.lowestTerms_den_pos nonzero
  rw [lowestTerms_eq nonzero] at low_pos ⊢
  exact moveSign_ofInt ((Int.natAbs_ediv_le_natAbs ..).trans num_le)
    ((Int.natAbs_ediv_le_natAbs ..).trans den_le) (Int.natAbs_pos.1 low_pos)

/-- Reduction on words is reduction of the integers. -/
theorem reduce_follows (num_le : num.natAbs ≤ 2 ^ 126) (den_le : den.natAbs ≤ 2 ^ 126) :
    Follows (reduce (.ofInt 128 num) (.ofInt 128 den)) (Ratio.reduce? num den) := by
  unfold Follows
  by_cases zero : den = 0
  · subst zero
    rfl
  obtain ⟨positive, small⟩ := gcd_bounds num den_le zero
  obtain ⟨num_low_le, den_low_le⟩ := lowestTerms_le num zero
  have num_low := div_ofInt (x := num) (y := num.gcd den) (by omega) (by omega) (by omega)
    (Int.gcd_dvd_left ..)
  have den_low := div_ofInt (x := den) (y := num.gcd den) (by omega) (by omega) (by omega)
    (Int.gcd_dvd_right ..)
  rw [reduce, if_neg (ofInt_ne_zero (x := den) (by omega) zero),
    gcd_abs_ofInt (by omega) (by omega), Trap.ok_bind, signed_ofNat (by omega), Trap.ok_bind,
    num_low, Trap.ok_bind, den_low, Trap.ok_bind, moveSign_lowestTerms num_le den_le zero,
    Trap.ok_bind, store_ofInt (num_low_le.trans num_le) (den_low_le.trans den_le),
    Ratio.reduce?, dif_neg zero]
  dsimp only
  split
  · rfl
  · rfl

end WordRatio

/-! ## Fractions before reduction -/

namespace Formed

variable {raw : WordRatio.Raw} {num den : Int}

lemma of_words (words : raw = .ok (.ofInt 128 num, .ofInt 128 den)) (num_le : num.natAbs ≤ 2 ^ 126)
    (den_le : den.natAbs ≤ 2 ^ 126) : Formed raw num den where
  words := words
  num_le := num_le
  den_le := den_le
  divisor nonzero := by
    obtain ⟨positive, small⟩ := WordRatio.gcd_bounds num den_le nonzero
    refine ⟨_, gcd_abs_ofInt (by omega) (by omega), ?_⟩
    rw [BitVec.toNat_ofNat, Nat.mod_eq_of_lt (by omega)]
    exact ⟨positive, small⟩

/-- A fraction that was formed is reduced as the integers are. -/
lemma follows (formed : Formed raw num den) :
    Follows (raw >>= fun pair => WordRatio.reduce pair.1 pair.2) (Ratio.reduce? num den) := by
  rw [formed.words, Trap.ok_bind]
  exact WordRatio.reduce_follows formed.num_le formed.den_le

end Formed

namespace WordRatio

lemma natAbs_toInt_le (a : Int64) : a.toInt.natAbs ≤ 2 ^ 63 := by
  have := a.le_toInt
  have := a.toInt_lt
  omega

/-- Words of 64 bits are multiplied without overflow, the least one too. -/
lemma natAbs_mul_le (a b : Int64) : (a.toInt * b.toInt).natAbs ≤ 2 ^ 126 := by
  calc (a.toInt * b.toInt).natAbs = a.toInt.natAbs * b.toInt.natAbs := Int.natAbs_mul ..
    _ ≤ 2 ^ 63 * 2 ^ 63 := Nat.mul_le_mul (natAbs_toInt_le a) (natAbs_toInt_le b)
    _ = 2 ^ 126 := rfl

lemma mul_widen (a b : Int64) :
    WideWord.mul (widen a) (widen b) = .ok (.ofInt 128 (a.toInt * b.toInt)) := by
  have := natAbs_toInt_le a
  have := natAbs_toInt_le b
  have := natAbs_mul_le a b
  rw [widen_eq_ofInt, widen_eq_ofInt, mul_ofInt (by omega) (by omega) (by omega)]

lemma rawWords_formed (num den : Int64) : Formed (rawWords num den) num.toInt den.toInt := by
  have := natAbs_toInt_le num
  have := natAbs_toInt_le den
  refine .of_words ?_ (by omega) (by omega)
  rw [rawWords, widen_eq_ofInt, widen_eq_ofInt]
  rfl

lemma rawProduct_formed (a b : WordRatio) :
    Formed (rawProduct a b) (a.num.toInt * b.num.toInt) (a.den.toInt * b.den.toInt) := by
  refine .of_words ?_ (natAbs_mul_le ..) (natAbs_mul_le ..)
  rw [rawProduct, mul_widen, mul_widen]
  rfl

lemma rawQuotient_formed (a b : WordRatio) :
    Formed (rawQuotient a b) (a.num.toInt * b.den.toInt) (a.den.toInt * b.num.toInt) := by
  refine .of_words ?_ (natAbs_mul_le ..) (natAbs_mul_le ..)
  rw [rawQuotient, mul_widen, mul_widen]
  rfl

lemma rawReciprocal_formed (a : WordRatio) :
    Formed (rawReciprocal a) a.den.toInt a.num.toInt :=
  rawWords_formed a.den a.num

end WordRatio

/-! ## Operations on ratios -/

/-- The exponent as a word. -/
def Exponent.onWord (n : Exponent) : Int32 :=
  .ofInt n.toInt

lemma Exponent.toInt_onWord (n : Exponent) : n.onWord.toInt = n.toInt :=
  Int32.toInt_ofInt_of_le n.range.1 n.range.2

/-- The number of steps of a power is exact for the least exponent too. -/
lemma Exponent.toNat_abs_onWord (n : Exponent) : n.onWord.toBitVec.abs.toNat = n.toInt.natAbs := by
  rw [toNat_abs, Int32.toInt_toBitVec, n.toInt_onWord]

namespace Ratio

open WordRatio

lemma ofWords_follows (num den : Int64) : Follows (WordRatio.ofWords num den) (ofWords? num den) :=
  (rawWords_formed num den).follows

lemma mul_follows (a b : Ratio) : Follows (a.onWords.mul b.onWords) (a.mul? b) := by
  have formed := rawProduct_formed a.onWords b.onWords
  simp only [toInt_onWords_num, toInt_onWords_den] at formed
  exact formed.follows

lemma div_follows (a b : Ratio) : Follows (a.onWords.div b.onWords) (a.div? b) := by
  have formed := rawQuotient_formed a.onWords b.onWords
  simp only [toInt_onWords_num, toInt_onWords_den] at formed
  exact formed.follows

lemma recip_follows (r : Ratio) : Follows r.onWords.recip r.recip? := by
  have formed := rawReciprocal_formed r.onWords
  simp only [toInt_onWords_num, toInt_onWords_den] at formed
  exact formed.follows

/-- What goes on after an answer follows what goes on after the unbounded one. -/
lemma andThen_follows {answer : WordRatio.Answer} {exact : Option Ratio}
    {next : WordRatio → WordRatio.Answer} {exactNext : Ratio → Option Ratio}
    (first : Follows answer exact) (rest : ∀ r : Ratio, Follows (next r.onWords) (exactNext r)) :
    Follows (andThen answer next) (exact.bind exactNext) := by
  rw [andThen, first, Trap.ok_bind]
  cases exact with
  | none => rfl
  | some r => exact rest r

/-- From a partial product on, the loop ends with the power, or without an answer as soon as a
partial product does not fit. -/
lemma powLoop_follows (base : Ratio) {steps i : UInt32} {p : Ratio}
    (partialPower : base.natPow? i.toNat = some p) (le : i.toNat ≤ steps.toNat) :
    Follows (powLoop base.onWords steps i p.onWords) (base.natPow? steps.toNat) := by
  obtain ⟨left, total⟩ : ∃ left, steps.toNat = i.toNat + left := ⟨_, (Nat.add_sub_of_le le).symm⟩
  -- on the steps that are left: what was formed so far is a ratio, so each is a product of ratios
  induction left generalizing i p with
  | zero =>
    have done : ¬i < steps := by
      rw [UInt32.lt_iff_toNat_lt]
      omega
    rw [powLoop, dif_neg done, total, Nat.add_zero, partialPower]
    rfl
  | succ left ih =>
    have before : i < steps := by
      rw [UInt32.lt_iff_toNat_lt]
      omega
    have bound := steps.toNat_lt
    have moved : (i + 1).toNat = i.toNat + 1 := toNat_of_count (count_eq (by omega))
    have next_eq : base.natPow? (i + 1).toNat = p.mul? base := by
      rw [moved, natPow?_succ, partialPower, Option.bind_some]
    rw [powLoop_of_lt _ _ before, andThen, mul_follows p base, Trap.ok_bind]
    cases product : p.mul? base with
    | none =>
      -- a power that fits has all its partial products
      have refused : base.natPow? steps.toNat = none := by
        rw [← Option.not_isSome_iff_eq_none, Option.isSome_iff_exists]
        rintro ⟨s, formed⟩
        obtain ⟨q, partialNext, _⟩ := natPow?_of_le formed (k := (i + 1).toNat) (by omega)
        rw [next_eq, product] at partialNext
        cases partialNext
      rw [refused]
      rfl
    | some q => exact ih (next_eq.trans product) (by omega) (by omega)

lemma pow_follows (r : Ratio) (n : Exponent) : Follows (r.onWords.pow n.onWord) (r.pow? n) := by
  have steps : (UInt32.ofBitVec n.onWord.toBitVec.abs).toNat = n.toInt.natAbs := n.toNat_abs_onWord
  have negative : n.onWord < 0 ↔ n.toInt < 0 := by
    rw [Int32.lt_iff_toInt_lt, n.toInt_onWord]
    rfl
  rw [pow?_eq_bind, ← steps]
  refine andThen_follows ?_ fun base => powLoop_follows base (p := one) rfl (Nat.zero_le _)
  unfold powerBase?
  by_cases below : n.toInt < 0
  · rw [if_pos below, if_pos (negative.2 below)]
    exact r.recip_follows
  · rw [if_neg below, if_neg (mt negative.1 below)]
    rfl

/-! ## Constructions -/

/-- A construction run on words, of which every part is built before the step that needs it. -/
def Construction.runOnWords : Construction → WordRatio.Answer
  | words num den => WordRatio.ofWords num den
  | product a b => andThen a.runOnWords fun r => andThen b.runOnWords fun s => r.mul s
  | quotient a b => andThen a.runOnWords fun r => andThen b.runOnWords fun s => r.div s
  | reciprocal a => andThen a.runOnWords fun r => r.recip
  | power a n => andThen a.runOnWords fun r => r.pow n.onWord

/-- However long a construction is, its run on words ends with the ratio of the unbounded one. -/
lemma Construction.runOnWords_follows (c : Construction) : Follows c.runOnWords c.build? := by
  induction c with
  | words num den => exact ofWords_follows num den
  | product a b iha ihb =>
    exact andThen_follows iha fun r => andThen_follows ihb fun s => mul_follows r s
  | quotient a b iha ihb =>
    exact andThen_follows iha fun r => andThen_follows ihb fun s => div_follows r s
  | reciprocal a ih => exact andThen_follows ih recip_follows
  | power a n ih => exact andThen_follows ih fun r => pow_follows r n

/-- Ratio arithmetic on machine words neither overflows, divides by zero nor loses bits. Whatever the
words, products fit a word of 128 bits and have absolute value at most `2 ^ 126`, and reduction
divides by something between one and `2 ^ 126`. No operation on ratios runs into a trap, and each ends
with the words of what it answers on unbounded integers, powers included for every exponent; so does
a construction of any length. -/
theorem wordArithmetic_lossless :
    (∀ r : Ratio, r.onWords.num.toInt = r.num ∧ r.onWords.den.toInt = r.den) ∧
    (∀ n : Exponent, n.onWord.toInt = n.toInt) ∧
    (∀ num den : Int64, Formed (rawWords num den) num.toInt den.toInt ∧
      Follows (WordRatio.ofWords num den) (ofWords? num den)) ∧
    (∀ a b : WordRatio,
      Formed (rawProduct a b) (a.num.toInt * b.num.toInt) (a.den.toInt * b.den.toInt) ∧
      Formed (rawQuotient a b) (a.num.toInt * b.den.toInt) (a.den.toInt * b.num.toInt) ∧
      Formed (rawReciprocal a) a.den.toInt a.num.toInt) ∧
    (∀ a b : Ratio, Follows (a.onWords.mul b.onWords) (a.mul? b) ∧
      Follows (a.onWords.div b.onWords) (a.div? b) ∧ Follows a.onWords.recip a.recip?) ∧
    (∀ (r : Ratio) (n : Exponent), Follows (r.onWords.pow n.onWord) (r.pow? n)) ∧
    ∀ c : Construction, Follows c.runOnWords c.build? := by
  refine ⟨?_, Exponent.toInt_onWord, ?_, ?_, ?_, pow_follows, Construction.runOnWords_follows⟩
  · exact fun r => ⟨r.toInt_onWords_num, r.toInt_onWords_den⟩
  · exact fun num den => ⟨rawWords_formed num den, ofWords_follows num den⟩
  · exact fun a b => ⟨rawProduct_formed a b, rawQuotient_formed a b, rawReciprocal_formed a⟩
  · exact fun a b => ⟨mul_follows a b, div_follows a b, recip_follows a⟩

end Ratio

end Metrology
