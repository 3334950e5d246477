import Mathlib.Logic.Basic
import Metrology.Json.Text

/-!
# Strings read back

A written string is read as itself, whatever its characters are (`readString?_flatMap_escape`). Each
written character is read alone and leaves the rest of the text (`readChar?_escape`); since no
written character begins with a quote, the first bare quote is the closing one.
-/

namespace Metrology.Json

variable {c : Char} {text rest : List Char}

lemma hexDigit?_hexChar : ∀ n < 16, hexDigit? (hexChar n) = some n := by
  decide

/-- Four hexadecimal digits, of which the first two are zero, for a number below 256. -/
lemma readUnit?_hexChar {n : Nat} (small : n < 256) :
    readUnit? ('0' :: '0' :: hexChar (n / 16) :: hexChar (n % 16) :: rest) = some (n, rest) := by
  have zero : hexDigit? '0' = some 0 := hexDigit?_hexChar 0 (by decide)
  have high := hexDigit?_hexChar (n / 16) (by omega)
  have low := hexDigit?_hexChar (n % 16) (by omega)
  have joined : ((0 * 16 + 0) * 16 + n / 16) * 16 + n % 16 = n := by omega
  simp only [readUnit?, zero, high, low, Option.bind_eq_bind, Option.bind_some, Option.pure_def,
    joined]

/-- A control character is read from its number. -/
lemma readEscape?_control (control : c < ' ') :
    readEscape? ('u' :: '0' :: '0' :: hexChar (c.toNat / 16) :: hexChar (c.toNat % 16) :: rest) =
      some (c, rest) := by
  have small : c.toNat < 32 := control
  have low : isLowSurrogate c.toNat = false := by
    simp only [isLowSurrogate, Bool.and_eq_false_iff, decide_eq_false_iff_not]
    omega
  have high : isHighSurrogate c.toNat = false := by
    simp only [isHighSurrogate, Bool.and_eq_false_iff, decide_eq_false_iff_not]
    omega
  simp only [readEscape?, readUnit?_hexChar (show c.toNat < 256 by omega), Option.bind_eq_bind,
    Option.bind_some, low, high, Bool.false_eq_true, if_false, Char.ofNat_toNat]

/-- A written character is read as itself, without the rest of the text. -/
lemma readChar?_escape : readChar? (escape c ++ rest) = some (c, rest) := by
  -- the escapes with a name are read by evaluation, which leaves all other characters
  unfold escape
  split
  case h_8 quote backslash _ _ _ _ _ =>
    split
    case isTrue control => exact readEscape?_control control
    case isFalse printable =>
      rw [List.singleton_append, readChar?, if_neg printable]
      exact backslash
  all_goals rfl

lemma escape_ne_quote : ∀ rest', escape c ++ rest ≠ '"' :: rest' := by
  intro rest' same
  unfold escape at same
  split at same
  case h_8 quote _ _ _ _ _ _ =>
    split at same
    · exact absurd (List.cons.inj same).1 (by decide)
    · exact quote (List.cons.inj same).1
  all_goals exact absurd (List.cons.inj same).1 (by decide)

/-- The characters of a string are read back up to the closing quote. -/
lemma readString?_flatMap_escape :
    readString? (text.flatMap escape ++ '"' :: rest) = some (text, rest) := by
  induction text with
  | nil => rw [List.flatMap_nil, List.nil_append, readString?]
  | cons c text ih =>
    rw [List.flatMap_cons, List.append_assoc, readString?]
    · split
      · rename_i unread
        rw [readChar?_escape] at unread
        cases unread
      · rename_i read
        rw [readChar?_escape] at read
        cases read
        rw [ih]
        rfl
    · exact escape_ne_quote

end Metrology.Json
