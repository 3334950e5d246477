import Metrology.Json.Number
import Metrology.Json.Text

/-!
# JSON tokens

A text is cut into tokens from the front. The first place where no token can be read is itself a
token, `bad`, and ends the list: a reader that stops before it never learns of it.
-/

namespace Metrology.Json

/-- A token of a JSON text. -/
inductive Token where
  | openObject
  | closeObject
  | openArray
  | closeArray
  | comma
  | colon
  | null
  | bool (b : Bool)
  | number (n : Number)
  | string (s : String)
  | bad
deriving DecidableEq

namespace Token

def isBlank (c : Char) : Bool :=
  c == ' ' || c == '\n' || c == '\t' || c == '\r'

/-- The rest of a text after a word, if the text starts with it. -/
def after? : List Char → List Char → Option (List Char)
  | [], cs => some cs
  | w :: word, c :: cs => if w = c then after? word cs else none
  | _ :: _, [] => none

/-- Reads the token at the front of a text whose first character is not blank. -/
def read? : List Char → Option (Token × List Char)
  | '\x7b' :: rest => some (openObject, rest)
  | '\x7d' :: rest => some (closeObject, rest)
  | '[' :: rest => some (openArray, rest)
  | ']' :: rest => some (closeArray, rest)
  | ',' :: rest => some (comma, rest)
  | ':' :: rest => some (colon, rest)
  | '"' :: rest => (readString? rest).map fun (s, rest) => (string (String.ofList s), rest)
  | 'n' :: rest => (after? ['u', 'l', 'l'] rest).map (null, ·)
  | 't' :: rest => (after? ['r', 'u', 'e'] rest).map (bool true, ·)
  | 'f' :: rest => (after? ['a', 'l', 's', 'e'] rest).map (bool false, ·)
  | cs => do
    let (numeral, rest) ← Numeral.read? cs
    let n ← Number.ofNumeral? numeral
    return (number n, rest)

theorem after?_shrinks {word cs rest : List Char} (h : after? word cs = some rest) :
    rest.length ≤ cs.length := by
  fun_induction after? word cs with
  | case1 => cases h; exact Nat.le_refl _
  | case2 _ _ _ ih => exact Nat.le_succ_of_le (ih h)
  | case3 => cases h
  | case4 => cases h

theorem read?_shrinks {cs rest : List Char} {t : Token} (h : read? cs = some (t, rest)) :
    rest.length < cs.length := by
  unfold read? at h
  split at h
  case h_7 =>
    simp only [Option.map_eq_some_iff] at h
    obtain ⟨⟨_, _⟩, h, ends⟩ := h
    cases ends
    exact Nat.lt_succ_of_lt (readString?_shrinks h)
  case h_11 =>
    simp only [Option.bind_eq_bind, Option.bind_eq_some_iff, Option.pure_def] at h
    obtain ⟨⟨_, _⟩, numeral, _, _, ends⟩ := h
    cases ends
    exact Numeral.read?_shrinks numeral
  all_goals
    first
    | cases h
      exact Nat.lt_succ_self _
    | simp only [Option.map_eq_some_iff] at h
      obtain ⟨_, h, ends⟩ := h
      cases ends
      exact Nat.lt_succ_of_le (after?_shrinks h)

/-- The tokens of a text. -/
def ofText (cs : List Char) : List Token :=
  match cs with
  | [] => []
  | c :: rest =>
    if isBlank c then ofText rest
    else
      match h : read? (c :: rest) with
      | some (t, left) =>
        have := read?_shrinks h
        t :: ofText left
      | none => [bad]
termination_by cs.length
decreasing_by
  · exact Nat.lt_succ_self _
  · assumption

end Token

end Metrology.Json
