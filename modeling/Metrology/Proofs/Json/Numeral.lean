import Mathlib.Logic.Basic
import Metrology.Proofs.Json.Tokens

/-!
# Numerals read back

A numeral that is written down, sign, whole part, fraction and exponent one after the other, is read
as it was written (`Numeral.read?_written`). So a number is legible if its text is a numeral that
denotes it (`Number.legible_of_written`); integers of 64 bits are (`Number.legible_integer`).
-/

namespace Metrology.Json

/-- Whether a text has no digit at its front. -/
def StopsDigits (rest : List Char) : Prop :=
  ∀ c ∈ rest.head?, ¬c.isDigit

namespace Numeral

variable {ds rest : List Char}

lemma stopsDigits_cons {c : Char} (other : ¬c.isDigit) : StopsDigits (c :: rest) := by
  rintro _ ⟨⟩
  exact other

lemma Ended.stopsDigits (ended : Ended rest) : StopsDigits rest :=
  fun c first => (ended c first).1

lemma digits?_append (digits : ∀ c ∈ ds, c.isDigit) (nonempty : ds ≠ [])
    (stops : StopsDigits rest) : digits? (ds ++ rest) = some (ds, rest) := by
  have taken : rest.takeWhile Char.isDigit = [] := by
    cases rest with
    | nil => rfl
    | cons c rest => exact List.takeWhile_cons_of_neg (stops c rfl)
  have dropped : rest.dropWhile Char.isDigit = rest := by
    cases rest with
    | nil => rfl
    | cons c rest => exact List.dropWhile_cons_of_neg (stops c rfl)
  rw [digits?, List.takeWhile_append_of_pos digits, List.dropWhile_append_of_pos digits, taken,
    dropped, List.append_nil]
  cases ds with
  | nil => exact absurd rfl nonempty
  | cons c ds => rfl

/-- Whether the parts of a numeral are as they are written: digits in the whole part, with a zero
only alone in front, and digits behind the point. -/
structure WellFormed (n : Numeral) : Prop where
  whole_digits : ∀ c ∈ n.whole, c.isDigit
  whole_nonempty : n.whole ≠ []
  whole_plain : n.whole.head? = some '0' → n.whole.length = 1
  fraction : ∀ ds ∈ n.fraction, (∀ c ∈ ds, c.isDigit) ∧ ds ≠ []

def writtenFraction : Option (List Char) → List Char
  | none => []
  | some ds => '.' :: ds

/-- The exponent as it is written, always with a sign. -/
def writtenExponent : Option Int → List Char
  | none => []
  | some e => 'e' :: ((if 0 ≤ e then ['+'] else []) ++ e.repr.toList)

def written (n : Numeral) : List Char :=
  (if n.negative then ['-'] else []) ++ n.whole ++ writtenFraction n.fraction ++
    writtenExponent n.exponent

lemma isDigit_toDigits {n : Nat} : ∀ c ∈ Nat.toDigits 10 n, c.isDigit :=
  fun _ mem => Nat.isDigit_of_mem_toDigits (by decide) (by decide) mem

lemma power?_repr (e : Int) (stops : StopsDigits rest) :
    power? ((if 0 ≤ e then ['+'] else []) ++ e.repr.toList ++ rest) = some (e, rest) := by
  have read : ∀ n : Nat, digits? (Nat.toDigits 10 n ++ rest) = some (Nat.toDigits 10 n, rest) :=
    fun n => digits?_append isDigit_toDigits Nat.toDigits_ne_nil stops
  rw [Int.repr_eq_if]
  by_cases positive : 0 ≤ e
  · have value : (e.toNat : Int) = e := Int.toNat_of_nonneg positive
    rw [if_pos positive, if_pos positive, Nat.toList_repr, List.singleton_append, List.cons_append,
      power?, read]
    show some ((Nat.ofDigitChars 10 (Nat.toDigits 10 e.toNat) 0 : Int), rest) = _
    rw [Nat.ofDigitChars_ten_toDigits, value]
  · have value : -((-e).toNat : Int) = e := by omega
    rw [if_neg positive, if_neg positive, String.toList_append, Nat.toList_repr, List.nil_append,
      List.append_assoc]
    show power? ('-' :: (Nat.toDigits 10 (-e).toNat ++ rest)) = _
    rw [power?, read]
    show some (-(Nat.ofDigitChars 10 (Nat.toDigits 10 (-e).toNat) 0 : Int), rest) = _
    rw [Nat.ofDigitChars_ten_toDigits, value]

lemma exponent?_written (e : Option Int) (ended : Ended rest) :
    exponent? (writtenExponent e ++ rest) = some (e, rest) := by
  cases e with
  | none =>
    cases rest with
    | nil => rfl
    | cons c rest =>
      obtain ⟨_, _, e, E⟩ := ended c rfl
      rw [writtenExponent, List.nil_append, exponent?]
      · rintro _ ⟨⟩
        exact e rfl
      · rintro _ ⟨⟩
        exact E rfl
  | some e =>
    rw [writtenExponent, List.cons_append, exponent?, power?_repr e ended.stopsDigits]
    rfl

lemma writtenExponent_stops (e : Option Int) (ended : Ended rest) :
    ∀ c ∈ (writtenExponent e ++ rest).head?, ¬c.isDigit ∧ c ≠ '.' := by
  intro c first
  cases e with
  | none => exact ⟨(ended c first).1, (ended c first).2.1⟩
  | some e =>
    cases first
    decide

lemma fraction?_written {f : Option (List Char)}
    (digits : ∀ ds ∈ f, (∀ c ∈ ds, c.isDigit) ∧ ds ≠ [])
    (stops : ∀ c ∈ rest.head?, ¬c.isDigit ∧ c ≠ '.') :
    fraction? (writtenFraction f ++ rest) = some (f, rest) := by
  cases f with
  | none =>
    cases rest with
    | nil => rfl
    | cons c rest =>
      rw [writtenFraction, List.nil_append, fraction?]
      rintro _ ⟨⟩
      exact (stops '.' rfl).2 rfl
  | some ds =>
    obtain ⟨all_digits, nonempty⟩ := digits ds rfl
    rw [writtenFraction, List.cons_append, fraction?,
      digits?_append all_digits nonempty fun c first => (stops c first).1]
    rfl

lemma writtenFraction_stops {f : Option (List Char)} (stops : StopsDigits rest) :
    StopsDigits (writtenFraction f ++ rest) := by
  cases f with
  | none => exact stops
  | some ds => exact stopsDigits_cons (by decide)

lemma whole?_append (digits : ∀ c ∈ ds, c.isDigit) (nonempty : ds ≠ [])
    (plain : ds.head? = some '0' → ds.length = 1) (stops : StopsDigits rest) :
    whole? (ds ++ rest) = some (ds, rest) := by
  have alone : ¬(ds.head? = some '0' ∧ 1 < ds.length) := by
    rintro ⟨zero, long⟩
    have := plain zero
    omega
  rw [whole?, digits?_append digits nonempty stops]
  exact if_neg alone

lemma sign_written {negative : Bool} (digit : ∀ c ∈ rest.head?, c.isDigit) :
    sign ((if negative then ['-'] else []) ++ rest) = (negative, rest) := by
  cases negative with
  | true => rfl
  | false =>
    cases rest with
    | nil => rfl
    | cons c rest =>
      show sign (c :: rest) = _
      rw [sign]
      rintro _ ⟨⟩
      exact absurd (digit '-' rfl) (by decide)

/-- A written numeral is read as it was written. -/
lemma read?_written {n : Numeral} (formed : n.WellFormed) (ended : Ended rest) :
    read? (n.written ++ rest) = some (n, rest) := by
  -- each part ends where the next one begins, so the parts are read from the last one on
  have exponent_stops := writtenExponent_stops n.exponent ended
  have fraction_stops :
      StopsDigits (writtenFraction n.fraction ++ (writtenExponent n.exponent ++ rest)) :=
    writtenFraction_stops fun c first => (exponent_stops c first).1
  have digit : ∀ c ∈ (n.whole ++ (writtenFraction n.fraction ++
      (writtenExponent n.exponent ++ rest))).head?, c.isDigit := by
    intro c first
    obtain ⟨d, ds, whole⟩ := List.exists_cons_of_ne_nil formed.whole_nonempty
    rw [whole] at first
    cases first
    exact formed.whole_digits _ (whole ▸ List.mem_cons_self)
  rw [read?, written, List.append_assoc, List.append_assoc, List.append_assoc, sign_written digit]
  simp only [Option.bind_eq_bind, Option.pure_def,
    whole?_append formed.whole_digits formed.whole_nonempty formed.whole_plain fraction_stops,
    fraction?_written formed.fraction exponent_stops, exponent?_written n.exponent ended,
    Option.bind_some]

/-- A written numeral begins with a minus sign or a digit. -/
lemma written_head {n : Numeral} (formed : n.WellFormed) :
    ∃ c cs, n.written = c :: cs ∧ (c = '-' ∨ c.isDigit) := by
  obtain ⟨d, ds, whole⟩ := List.exists_cons_of_ne_nil formed.whole_nonempty
  rw [written, whole]
  cases n.negative with
  | true => exact ⟨_, _, rfl, .inl rfl⟩
  | false => exact ⟨_, _, rfl, .inr (formed.whole_digits d (whole ▸ List.mem_cons_self))⟩

end Numeral

/-- A token that begins like a numeral is one. -/
lemma Token.read?_numeral {c : Char} {cs : List Char} (numeral : c = '-' ∨ c.isDigit) :
    Token.read? (c :: cs) =
      (Numeral.read? (c :: cs)).bind fun (n, rest) =>
        (Number.ofNumeral? n).map fun number => (.number number, rest) := by
  have other : ∀ d, ¬(d = '-' ∨ d.isDigit) → c ≠ d := fun d not_numeral same =>
    not_numeral (same ▸ numeral)
  unfold Token.read?
  split
  case h_11 =>
    cases Numeral.read? (c :: cs) with
    | none => rfl
    | some found =>
      show (Number.ofNumeral? found.1).bind _ = (Number.ofNumeral? found.1).map _
      cases Number.ofNumeral? found.1 with
      | none => rfl
      | some number => rfl
  all_goals
    rename_i same
    exact absurd (List.cons.inj same).1 (other _ (by decide))

namespace Number

/-- A number is legible if its text is a numeral that denotes it. -/
lemma legible_of_written {number : Number} {n : Numeral} (formed : n.WellFormed)
    (written : number.text.toList = n.written) (denotes : ofNumeral? n = some number) :
    number.Legible := by
  intro rest ended
  have read := Numeral.read?_written formed ended
  obtain ⟨c, cs, text, numeral⟩ := Numeral.written_head formed
  rw [text] at read written
  rw [written, List.cons_append, Token.read?_numeral numeral, ← List.cons_append, read]
  show (ofNumeral? n).map _ = _
  rw [denotes]
  rfl

/-- Only zero is written with a zero in front. -/
lemma eq_zero_of_head?_toDigits {n : Nat} (zero : (Nat.toDigits 10 n).head? = some '0') :
    n = 0 := by
  induction n using Nat.strongRecOn with
  | ind n ih =>
    rw [Nat.toDigits_eq_if (by decide)] at zero
    split at zero
    · exact Nat.digitChar_eq_zero.1 (Option.some.inj zero)
    · rw [List.head?_append_of_ne_nil _ Nat.toDigits_ne_nil] at zero
      have := ih (n / 10) (by omega) zero
      omega

def integerNumeral (n : Int) : Numeral where
  negative := n < 0
  whole := Nat.toDigits 10 n.natAbs
  fraction := none
  exponent := none

/-- Integers that fit a word of 64 bits, signed or not, are legible. -/
lemma legible_integer {n : Int} (least : -9223372036854775808 ≤ n)
    (greatest : n < 18446744073709551616) : (integer n).Legible := by
  have size : Numeral.natOf (Nat.toDigits 10 n.natAbs) = n.natAbs := Nat.ofDigitChars_ten_toDigits
  apply legible_of_written (n := integerNumeral n)
  · refine ⟨Numeral.isDigit_toDigits, Nat.toDigits_ne_nil, fun zero => ?_, nofun⟩
    rw [integerNumeral, eq_zero_of_head?_toDigits zero]
    rfl
  · show n.repr.toList = _
    rw [Int.repr_eq_if]
    by_cases negative : n < 0
    · have natAbs : (-n).toNat = n.natAbs := by omega
      rw [if_neg (Int.not_le.2 negative), String.toList_append, Nat.toList_repr, natAbs]
      simp [integerNumeral, Numeral.written, Numeral.writtenFraction, Numeral.writtenExponent,
        negative]
    · have natAbs : n.toNat = n.natAbs := by omega
      rw [if_pos (Int.not_lt.1 negative), Nat.toList_repr, natAbs]
      simp [integerNumeral, Numeral.written, Numeral.writtenFraction, Numeral.writtenExponent,
        negative]
  · -- the reader takes the sign off and puts it back
    by_cases negative : n < 0
    · have value : -(n.natAbs : Int) = n := by omega
      have fits : 0 < n.natAbs ∧ Fits64 n := ⟨by omega, by omega, by omega⟩
      simp only [ofNumeral?, integerNumeral, size, decide_eq_true negative, if_true, value,
        if_pos fits]
    · have value : (n.natAbs : Int) = n := by omega
      have fits : n.natAbs < 18446744073709551616 := by omega
      simp only [ofNumeral?, integerNumeral, size, decide_eq_false negative, Bool.false_eq_true,
        if_false, if_pos fits, value]

end Number

end Metrology.Json
