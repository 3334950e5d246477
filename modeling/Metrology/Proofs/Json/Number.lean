import Mathlib
import Metrology.Proofs.Decimal.Shortest
import Metrology.Proofs.Json.Numeral
import Metrology.Proofs.Magnitude.Scientific

/-!
# Finite numbers read back

A finite double is read from its text bit for bit, zeros with their sign and the smallest numbers
included (`Number.legible_real`). Its text is a numeral with the value of a decimal that rounds to
the double, wherever the point stands; the reader takes the exact value of the numeral and rounds it
once.
-/

namespace Metrology.Json

open Decimal (Scaled significant)
open Magnitude (IsBinary64 RoundsTo two_zpow_pos)
open Float.Model.UnpackedFloat (Sign)

/-! ## From a numeral to a double -/

namespace Numeral

/-- The digits of a numeral, without the point. -/
def size (n : Numeral) : Nat :=
  natOf (n.whole ++ n.fraction.getD [])

/-- The power of ten that belongs to the last digit. -/
def power (n : Numeral) : Int :=
  n.exponent.getD 0 - (n.fraction.getD []).length

end Numeral

namespace Number

variable {m n : Nat} {e k : Int} {r : ℚ} {s : Sign}

lemma ten_zpow_lt {i j : Int} (lt : (10 : ℚ) ^ i < 10 ^ j) : i < j :=
  (zpow_lt_zpow_iff_right₀ (by norm_num)).1 lt

/-- The place of the first digit of a number that rounds to a double. -/
lemma place_bounds (finite : IsBinary64 m e) (pos : 0 < n) (rounds : RoundsTo m e (n * 10 ^ k)) :
    -330 ≤ k + (Nat.toDigits 10 n).length ∧ k + (Nat.toDigits 10 n).length ≤ 310 := by
  obtain ⟨length, digits⟩ : ∃ length, (Nat.toDigits 10 n).length = length + 1 :=
    ⟨(Nat.toDigits 10 n).length - 1, by have := Nat.length_toDigits_pos (b := 10) (n := n); omega⟩
  have upper : n < 10 ^ (length + 1) :=
    (Nat.length_toDigits_le_iff (by decide) (by omega)).1 digits.le
  have lower : 10 ^ length ≤ n := by
    rcases Nat.eq_zero_or_pos length with rfl | positive
    · exact pos
    · refine not_lt.1 fun less => ?_
      have := (Nat.length_toDigits_le_iff (by decide) positive).2 less
      omega
  have place : ∀ j : Nat, ((10 ^ j : Nat) : ℚ) * 10 ^ k = 10 ^ (k + j) := fun j => by
    rw [zpow_add₀ (by norm_num), zpow_natCast]
    push_cast
    ring
  obtain ⟨above, below⟩ := rounds.range finite
  rw [digits]
  constructor
  · have tiny : (10 : ℚ) ^ (-330 : Int) < 2 ^ (-1075 : Int) := by
      rw [zpow_neg, zpow_neg, inv_lt_inv₀ (by positivity) (by positivity)]
      exact_mod_cast (by decide +kernel : 2 ^ 1075 < 10 ^ 330)
    have : (10 : ℚ) ^ (-330 : Int) < 10 ^ (k + (length + 1 : Nat)) := by
      refine tiny.trans_le (above.trans ?_)
      rw [← place]
      gcongr
    have := ten_zpow_lt this
    omega
  · have huge : (2 : ℚ) ^ (1024 : Int) < 10 ^ (309 : Int) := by
      exact_mod_cast (by decide +kernel : 2 ^ 1024 < 10 ^ 309)
    have : (10 : ℚ) ^ (k + length) < 10 ^ (309 : Int) := by
      refine lt_of_le_of_lt ?_ (below.trans huge)
      rw [← place]
      gcongr
    have := ten_zpow_lt this
    push_cast
    omega

/-- A number that rounds to a double is read as that double. -/
lemma ofDecimal?_eq (finite : IsBinary64 m e) (pos : 0 < n) (rounds : RoundsTo m e (n * 10 ^ k)) :
    ofDecimal? n k = some (.ofModel (.pack (.finite .positive m e finite.pos))) := by
  obtain ⟨least, greatest⟩ := place_bounds finite pos rounds
  have digits_le : (Nat.toDigits 10 n).length ≤ n.log2 + 1 := by
    rw [Nat.length_toDigits_le_iff (by decide) (by omega)]
    exact Nat.lt_log2_self.trans_le (Nat.pow_le_pow_left (by decide) _)
  have not_inf : (Float.ofModel (.pack (.finite .positive m e finite.pos))).isInf = false := by
    show (Float.Model.pack (.finite .positive m e finite.pos)).unpack.isInf = false
    rw [Magnitude.unpack_pack finite]
    rfl
  simp only [ofDecimal?]
  rw [if_neg (by omega), if_neg (by omega),
    Magnitude.ofScientific_eq finite pos rounds (by omega) (by omega), if_neg (by simp [not_inf])]

/-! ## From a decimal to a numeral -/

/-- Digits with which a numeral can begin. -/
structure Leading (ds : List Char) : Prop where
  digits : ∀ c ∈ ds, c.isDigit
  nonempty : ds ≠ []
  plain : ds.head? ≠ some '0'

lemma natOf_append (front back : List Char) :
    Numeral.natOf (front ++ back) =
      Numeral.natOf front * 10 ^ back.length + Numeral.natOf back := by
  rw [Numeral.natOf, Nat.ofDigitChars_append, Nat.ofDigitChars_eq_ofDigitChars_zero, mul_comm]
  rfl

lemma natOf_replicate (z : Nat) : Numeral.natOf (List.replicate z '0') = 0 := by
  simp [Numeral.natOf]

lemma significant_spec (pos : 0 < n) :
    Leading (significant n) ∧ ∃ z, (Nat.toDigits 10 n).length = (significant n).length + z ∧
      n = Numeral.natOf (significant n) * 10 ^ z := by
  have split := List.takeWhile_append_dropWhile (p := (· == '0')) (l := (Nat.toDigits 10 n).reverse)
  -- what is cut off at the end is a run of zeros
  obtain ⟨z, zeros⟩ :
      ∃ z, (Nat.toDigits 10 n).reverse.takeWhile (· == '0') = List.replicate z '0' :=
    ⟨_, List.eq_replicate_of_mem fun c mem => by simpa using List.mem_takeWhile_imp mem⟩
  have value : Numeral.natOf (Nat.toDigits 10 n) = n := Nat.ofDigitChars_ten_toDigits
  cases rest : (Nat.toDigits 10 n).reverse.dropWhile (· == '0') with
  | nil =>
    rw [zeros, rest, List.append_nil] at split
    rw [← List.reverse_reverse (Nat.toDigits 10 n), ← split, List.reverse_replicate,
      natOf_replicate] at value
    omega
  | cons d ds =>
    have digits : Nat.toDigits 10 n = (d :: ds).reverse ++ List.replicate z '0' := by
      rw [← List.reverse_reverse (Nat.toDigits 10 n), ← split, zeros, rest, List.reverse_append,
        List.reverse_replicate]
    have significant_eq : significant n = (d :: ds).reverse := by
      unfold significant
      rw [rest]
    have nonempty : (d :: ds).reverse ≠ [] := by simp
    rw [significant_eq]
    refine ⟨⟨fun c mem => ?_, nonempty, fun zero => ?_⟩, z, ?_, ?_⟩
    · exact Numeral.isDigit_toDigits c (digits ▸ List.mem_append_left _ mem)
    · rw [← List.head?_append_of_ne_nil _ nonempty, ← digits] at zero
      exact pos.ne' (eq_zero_of_head?_toDigits zero)
    · rw [digits, List.length_append, List.length_replicate]
    · rw [digits, natOf_append, natOf_replicate, List.length_replicate] at value
      exact value.symm

/-- The numeral that digits are laid out as, when the first one stands for `10 ^ first`. -/
def numeralOf (negative : Bool) (ds : List Char) (first : Int) : Numeral :=
  let whole := (first + 1).toNat
  if -5 ≤ first && first ≤ 15 then
    if first < 0 then
      { negative, whole := ['0'], fraction := some (List.replicate (-first - 1).toNat '0' ++ ds),
        exponent := none }
    else if ds.length ≤ whole then
      { negative, whole := ds ++ List.replicate (whole - ds.length) '0', fraction := some ['0'],
        exponent := none }
    else { negative, whole := ds.take whole, fraction := some (ds.drop whole), exponent := none }
  else
    { negative, whole := ds.take 1, fraction := if ds.length ≤ 1 then none else some (ds.drop 1),
      exponent := some first }

lemma written_numeralOf (negative : Bool) (ds : List Char) (first : Int) :
    (numeralOf negative ds first).written =
      (if negative then ['-'] else []) ++
        if -5 ≤ first && first ≤ 15 then Decimal.positionalText true ds first
        else Decimal.exponentText true ds first := by
  unfold numeralOf Decimal.positionalText Decimal.exponentText
  simp only []
  split
  · split
    · simp [Numeral.written, Numeral.writtenFraction, Numeral.writtenExponent]
    · split
      · simp [Numeral.written, Numeral.writtenFraction, Numeral.writtenExponent]
      · simp [Numeral.written, Numeral.writtenFraction, Numeral.writtenExponent]
  · split
    · rename_i short
      have tail : ds.drop 1 = [] := List.drop_eq_nil_of_le short
      simp [Numeral.written, Numeral.writtenFraction, Numeral.writtenExponent, tail]
    · simp [Numeral.written, Numeral.writtenFraction, Numeral.writtenExponent]

lemma isDigit_replicate {z : Nat} : ∀ c ∈ List.replicate z '0', c.isDigit := by
  intro c mem
  rw [List.eq_of_mem_replicate mem]
  rfl

namespace Leading

variable {ds : List Char} {w : Nat}

lemma take (leading : Leading ds) (pos : 0 < w) : Leading (ds.take w) where
  digits c mem := leading.digits c (List.mem_of_mem_take mem)
  nonempty := by simp [leading.nonempty, pos.ne']
  plain := by
    rw [List.head?_take, if_neg pos.ne']
    exact leading.plain

lemma append_zeros (leading : Leading ds) (z : Nat) : Leading (ds ++ List.replicate z '0') where
  digits c mem := (List.mem_append.1 mem).elim (leading.digits c) (isDigit_replicate c)
  nonempty := by simp [leading.nonempty]
  plain := by
    rw [List.head?_append_of_ne_nil _ leading.nonempty]
    exact leading.plain

lemma drop (leading : Leading ds) (lt : w < ds.length) :
    (∀ c ∈ ds.drop w, c.isDigit) ∧ ds.drop w ≠ [] :=
  ⟨fun c mem => leading.digits c (List.mem_of_mem_drop mem), by simpa using lt⟩

/-- Leading digits make a numeral with any fraction. -/
lemma wellFormed (leading : Leading ds) {negative : Bool} {fraction : Option (List Char)}
    {exponent : Option Int}
    (digits : ∀ places ∈ fraction, (∀ c ∈ places, c.isDigit) ∧ places ≠ []) :
    Numeral.WellFormed ⟨negative, ds, fraction, exponent⟩ :=
  ⟨leading.digits, leading.nonempty, fun zero => absurd zero leading.plain, digits⟩

end Leading

variable {ds : List Char}

lemma wellFormed_numeralOf (leading : Leading ds) (negative : Bool) (first : Int) :
    (numeralOf negative ds first).WellFormed := by
  have pos : 0 < ds.length := List.length_pos_iff.2 leading.nonempty
  unfold numeralOf
  simp only []
  split
  · rename_i positional
    split
    · -- the number is below one: a lone zero stands in front of the point
      refine ⟨by simp, by simp, by simp, ?_⟩
      rintro _ ⟨⟩
      refine ⟨fun c mem => ?_, by simp [leading.nonempty]⟩
      exact (List.mem_append.1 mem).elim (isDigit_replicate c) (leading.digits c)
    · split
      · apply (leading.append_zeros _).wellFormed
        rintro _ ⟨⟩
        exact ⟨by simp, by simp⟩
      · rename_i below long
        apply (leading.take (show 0 < (first + 1).toNat by omega)).wellFormed
        rintro _ ⟨⟩
        exact leading.drop (by omega)
  · apply (leading.take Nat.one_pos).wellFormed
    intro places mem
    split at mem
    · cases mem
    · cases mem
      exact leading.drop (by omega)

/-- A numeral has the value of its digits, apart from zeros at the end. -/
lemma size_numeralOf (leading : Leading ds) (negative : Bool) (first : Int) :
    ∃ z : Nat, (numeralOf negative ds first).size = Numeral.natOf ds * 10 ^ z ∧
      (numeralOf negative ds first).power + z = first + 1 - ds.length := by
  have pos : 0 < ds.length := List.length_pos_iff.2 leading.nonempty
  -- the point stands in front of the digits, behind them or between them, or there is an exponent
  unfold numeralOf
  simp only []
  split
  · split
    · rename_i below
      refine ⟨0, ?_, ?_⟩
      · show Numeral.natOf
          (List.replicate 1 '0' ++ (List.replicate (-first - 1).toNat '0' ++ ds)) = _
        rw [natOf_append, natOf_append, natOf_replicate, natOf_replicate]
        ring
      · simp only [Numeral.power, Option.getD_some, Option.getD_none, List.length_append,
          List.length_replicate]
        omega
    · split
      · rename_i above short
        refine ⟨(first + 1).toNat - ds.length + 1, ?_, ?_⟩
        · show Numeral.natOf (ds ++ List.replicate _ '0' ++ List.replicate 1 '0') = _
          rw [natOf_append, natOf_append, natOf_replicate, natOf_replicate, List.length_replicate,
            List.length_replicate]
          ring
        · simp only [Numeral.power, Option.getD_some, Option.getD_none, List.length_singleton]
          omega
      · rename_i above long
        refine ⟨0, ?_, ?_⟩
        · simp [Numeral.size]
        · simp only [Numeral.power, Option.getD_some, Option.getD_none, List.length_drop]
          omega
  · split
    · rename_i short
      refine ⟨0, ?_, ?_⟩
      · show Numeral.natOf (ds.take 1 ++ []) = _
        rw [List.append_nil, List.take_of_length_le short, pow_zero, mul_one]
      · simp only [Numeral.power, Option.getD_some, Option.getD_none, List.length_nil]
        omega
    · rename_i long
      refine ⟨0, ?_, ?_⟩
      · show Numeral.natOf (ds.take 1 ++ ds.drop 1) = _
        rw [List.take_append_drop, pow_zero, mul_one]
      · simp only [Numeral.power, Option.getD_some, List.length_drop]
        omega

/-- The numeral of a decimal has the value of the decimal. -/
lemma value_numeralOf (pos : 0 < n) (negative : Bool) (k : Int) :
    let numeral := numeralOf negative (significant n) (k + (Nat.toDigits 10 n).length - 1)
    0 < numeral.size ∧ (numeral.size : ℚ) * 10 ^ numeral.power = n * 10 ^ k := by
  intro numeral
  obtain ⟨leading, zeros, length, digits⟩ := significant_spec pos
  obtain ⟨z, size, power⟩ : ∃ z : Nat, numeral.size = Numeral.natOf (significant n) * 10 ^ z ∧
      numeral.power + z = k + (Nat.toDigits 10 n).length - 1 + 1 - (significant n).length :=
    size_numeralOf leading negative _
  have significant_pos : 0 < Numeral.natOf (significant n) := by
    refine Nat.pos_of_ne_zero fun zero => ?_
    rw [zero, zero_mul] at digits
    omega
  -- the zeros that the text adds or leaves out are made up for by the exponent
  have exponents : (10 : ℚ) ^ z * 10 ^ numeral.power = 10 ^ zeros * 10 ^ k := by
    rw [← zpow_natCast, ← zpow_natCast, ← zpow_add₀ (by norm_num), ← zpow_add₀ (by norm_num)]
    congr 1
    omega
  refine ⟨by rw [size]; positivity, ?_⟩
  calc (numeral.size : ℚ) * 10 ^ numeral.power
      = Numeral.natOf (significant n) * (10 ^ z * 10 ^ numeral.power) := by
        rw [size]
        push_cast
        ring
    _ = Numeral.natOf (significant n) * 10 ^ zeros * 10 ^ k := by rw [exponents, mul_assoc]
    _ = n * 10 ^ k := by
        conv_rhs => rw [digits]
        push_cast
        rfl

/-! ## Finite doubles -/

variable {x : Float}

lemma ofNumeral?_numeralOf (negative : Bool) (ds : List Char) (first : Int) :
    ofNumeral? (numeralOf negative ds first) =
      (ofDecimal? (numeralOf negative ds first).size (numeralOf negative ds first).power).map
        fun y => real (signed negative y) := by
  unfold numeralOf
  simp only []
  split
  · split
    · rfl
    · split <;> rfl
  · split <;> rfl

/-- The numeral of a finite double. -/
def realNumeral (x : Float) : Numeral :=
  let d := (Decimal.Binary.ofFloat x).shortest .toEven
  numeralOf (Magnitude.isNegative x) (significant d.digits)
    (d.exponent + (Nat.toDigits 10 d.digits).length - 1)

lemma text_real (finite : x.isFinite) : (real x).text.toList = (realNumeral x).written := by
  have number : ¬x.isNaN := by
    intro nan
    have finite : x.toModel.unpack.isFinite = true := finite
    have nan : x.toModel.unpack.isNaN = true := nan
    cases unpacked : x.toModel.unpack <;> rw [unpacked] at finite nan
    · cases nan
    · cases finite
    · cases nan
    · cases nan
  have sign : (Magnitude.signText x false).toList =
      if Magnitude.isNegative x then ['-'] else [] := by
    rw [Magnitude.signText, if_neg number]
    split <;> rfl
  rw [text, if_pos finite, String.toList_append, sign, realNumeral, written_numeralOf,
    Decimal.Layout.writeFinite, Decimal.Layout.write, String.toList_ofList]
  rfl

/-- The sign is put back. -/
lemma signed_pack {s : Sign} {pos : 0 < m} (finite : IsBinary64 m e)
    (unpacked : x.toModel.unpack = .finite s m e pos) :
    signed (Magnitude.isNegative x) (.ofModel (.pack (.finite .positive m e pos))) = x := by
  have sign := Magnitude.isNegative_iff (Magnitude.spells_of_unpack unpacked).1
  have packed : Float.ofModel (.pack (.finite s m e pos)) = x :=
    congrArg Float.ofModel (Magnitude.pack_of_unpack unpacked)
  cases s with
  | positive =>
    rw [Bool.eq_false_iff.2 (mt sign.1 nofun)]
    exact packed
  | negative =>
    rw [sign.2 rfl]
    show Float.ofModel (.pack (Float.Model.pack (.finite .positive m e finite.pos)).unpack.neg) = x
    rw [Magnitude.unpack_pack finite]
    exact packed

lemma legible_of_unpack {s : Sign} {pos : 0 < m} (unpacked : x.toModel.unpack = .finite s m e pos)
    (finite : x.isFinite) : (real x).Legible := by
  obtain ⟨mantissa, exponent, proper⟩ := Decimal.Binary.ofFloat_of_unpack unpacked
  have binary64 := proper.finite
  have rounds := Decimal.Binary.shortest_rounds proper .toEven
  rw [mantissa, exponent] at binary64 rounds
  have positive : 0 < ((Decimal.Binary.ofFloat x).shortest .toEven).digits := by
    refine Nat.pos_of_ne_zero fun zero => ?_
    have above := (rounds.range binary64).1
    rw [Scaled.value, zero, Nat.cast_zero, zero_mul] at above
    exact absurd above (not_le.2 (two_zpow_pos _))
  obtain ⟨leading, _⟩ := significant_spec positive
  obtain ⟨size_pos, value⟩ := value_numeralOf positive (Magnitude.isNegative x)
    ((Decimal.Binary.ofFloat x).shortest .toEven).exponent
  have read : ofDecimal? (realNumeral x).size (realNumeral x).power =
      some (.ofModel (.pack (.finite .positive m e binary64.pos))) :=
    ofDecimal?_eq binary64 size_pos (value ▸ rounds)
  apply legible_of_written (wellFormed_numeralOf leading _ _) (text_real finite)
  rw [ofNumeral?_numeralOf]
  show (ofDecimal? (realNumeral x).size (realNumeral x).power).map _ = _
  rw [read]
  exact congrArg (fun y => some (real y)) (signed_pack binary64 unpacked)

lemma legible_zero {s : Sign} (unpacked : x.toModel.unpack = .zero s) (finite : x.isFinite) :
    (real x).Legible := by
  have mantissa := Decimal.Binary.mantissa_ofFloat_of_unpack unpacked
  have numeral : realNumeral x = ⟨Magnitude.isNegative x, ['0'], some ['0'], none⟩ := by
    rw [realNumeral, Decimal.Binary.shortest, if_pos mantissa]
    rfl
  have written := text_real finite
  rw [numeral] at written
  refine legible_of_written ⟨by simp, by simp, by simp, by simp⟩ written ?_
  have sign := Magnitude.isNegative_iff (Magnitude.zero_of_unpack unpacked).1
  have packed : Float.ofModel (.pack (.zero s)) = x :=
    congrArg Float.ofModel (Magnitude.pack_of_unpack_zero unpacked)
  show some (real (signed (Magnitude.isNegative x) 0)) = some (real x)
  cases s with
  | positive =>
    have unlike : Sign.positive ≠ Sign.negative := by
      intro same
      cases same
    rw [Bool.eq_false_iff.2 (mt sign.1 unlike), ← packed]
    exact congrArg (fun y => some (real y)) (by decide +kernel)
  | negative =>
    rw [sign.2 rfl, ← packed]
    exact congrArg (fun y => some (real y)) (by decide +kernel)

/-- Finite doubles are legible. -/
theorem legible_real (finite : x.isFinite) : (real x).Legible := by
  have finite' : x.toModel.unpack.isFinite = true := finite
  cases unpacked : x.toModel.unpack with
  | notANumber =>
    rw [unpacked] at finite'
    cases finite'
  | infinity s =>
    rw [unpacked] at finite'
    cases finite'
  | zero s => exact legible_zero unpacked finite
  | finite s m e pos => exact legible_of_unpack unpacked finite

end Number

end Metrology.Json
