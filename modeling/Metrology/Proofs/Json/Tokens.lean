import Mathlib.Data.List.Forall2
import Metrology.Json.Token
import Metrology.Json.Value
import Metrology.Proofs.Json.Text

/-!
# The tokens of a value

The written text of a value is cut into the tokens of the value and nothing else (`ofText_text`), as
long as its numbers are legible, that is, read back where they end. A number ends where neither a
digit nor a point nor an exponent follows; after a value that is part of another one there is a
comma or a closing bracket, so every number ends where it should.
-/

namespace Metrology.Json

namespace Token

variable {c : Char} {cs rest : List Char} {t : Token}

lemma read?_blank (blank : isBlank c) : read? (c :: rest) = none := by
  simp only [isBlank, Bool.or_eq_true, beq_iff_eq] at blank
  rcases blank with ((rfl | rfl) | rfl) | rfl <;> rfl

/-- A token at the front of a text is the first token. -/
lemma ofText_of_read? (read : read? cs = some (t, rest)) : ofText cs = t :: ofText rest := by
  cases cs with
  | nil => cases read
  | cons c cs =>
    have visible : ¬isBlank c := fun blank => by
      rw [read?_blank blank] at read
      cases read
    rw [ofText, if_neg visible]
    split
    · rename_i read'
      rw [read] at read'
      cases read'
      rfl
    · rename_i unread
      rw [read] at unread
      cases unread

lemma ofText_writeString {s : String} :
    ofText ((writeString s).toList ++ rest) = .string s :: ofText rest := by
  apply ofText_of_read?
  have shape :
      (writeString s).toList ++ rest = '"' :: (s.toList.flatMap escape ++ '"' :: rest) := by
    simp [writeString]
  rw [shape, read?, readString?_flatMap_escape]
  simp

end Token

/-- Whether a numeral before the text ends where the text begins. -/
def Numeral.Ended (rest : List Char) : Prop :=
  ∀ c ∈ rest.head?, ¬c.isDigit ∧ c ≠ '.' ∧ c ≠ 'e' ∧ c ≠ 'E'

/-- Whether the text of a number is read back as the number. -/
def Number.Legible (n : Number) : Prop :=
  ∀ rest, Numeral.Ended rest → Token.read? (n.text.toList ++ rest) = some (.number n, rest)

namespace Value

mutual

/-- The tokens of a value. -/
def tokens : Value → List Token
  | null => [.null]
  | bool b => [.bool b]
  | number n => [.number n]
  | string s => [.string s]
  | array items => .openArray :: ([.comma].intercalate (itemTokens items) ++ [.closeArray])
  | object fields => .openObject :: ([.comma].intercalate (fieldTokens fields) ++ [.closeObject])

def itemTokens : List Value → List (List Token)
  | [] => []
  | v :: rest => v.tokens :: itemTokens rest

def fieldTokens : List (String × Value) → List (List Token)
  | [] => []
  | (name, v) :: rest => (.string name :: .colon :: v.tokens) :: fieldTokens rest

end

mutual

/-- The numbers that occur in a value. -/
def numbers : Value → List Number
  | number n => [n]
  | array items => itemNumbers items
  | object fields => fieldNumbers fields
  | _ => []

def itemNumbers : List Value → List Number
  | [] => []
  | v :: rest => v.numbers ++ itemNumbers rest

def fieldNumbers : List (String × Value) → List Number
  | [] => []
  | (_, v) :: rest => v.numbers ++ fieldNumbers rest

end

/-! ## Parts of a text -/

/-- Whether a part of a text has the given tokens wherever it stands, provided that numerals end
with it. -/
def Cut (part : String) (tokens : List Token) : Prop :=
  ∀ rest, Numeral.Ended rest → Token.ofText (part.toList ++ rest) = tokens ++ Token.ofText rest

variable {rest : List Char} {c : Char} {part next : String} {parts : List String}

lemma ended_cons (separator : c = ',' ∨ c = ']' ∨ c = '\x7d') : Numeral.Ended (c :: rest) := by
  intro other head
  cases head
  rcases separator with rfl | rfl | rfl <;> decide

/-- Parts with commas between them have their tokens with commas between them. -/
lemma ofText_intercalate {tokens : List (List Token)} (cut : List.Forall₂ Cut parts tokens)
    (closing : c = ']' ∨ c = '\x7d') :
    Token.ofText ((",".intercalate parts).toList ++ c :: rest) =
      [.comma].intercalate tokens ++ Token.ofText (c :: rest) := by
  have ended : Numeral.Ended (c :: rest) := ended_cons (.inr closing)
  induction cut with
  | nil => rfl
  | @cons part ts parts tokens cut_part cut_parts ih =>
    cases cut_parts with
    | nil =>
      rw [String.intercalate_singleton, cut_part _ ended, List.intercalate_singleton]
    | @cons next us parts tokens _ _ =>
      -- the numeral that may end the part ends at the comma
      have split : (",".intercalate (part :: next :: parts)).toList ++ c :: rest =
          part.toList ++ ',' :: ((",".intercalate (next :: parts)).toList ++ c :: rest) := by
        simp [String.intercalate_cons_cons]
      have comma : ∀ rest, Token.ofText (',' :: rest) = .comma :: Token.ofText rest :=
        fun rest => Token.ofText_of_read? rfl
      rw [split, cut_part _ (ended_cons (.inl rfl)), comma, ih, List.intercalate_cons_cons]
      simp

/-- A field is cut into its name, a colon and its value. -/
lemma cut_field {name : String} {v : Value} (cut : Cut v.text v.tokens) :
    Cut (writeString name ++ ":" ++ v.text) (.string name :: .colon :: v.tokens) := by
  intro rest ended
  have split : (writeString name ++ ":" ++ v.text).toList ++ rest =
      (writeString name).toList ++ ':' :: (v.text.toList ++ rest) := by
    simp
  have colon : ∀ rest, Token.ofText (':' :: rest) = .colon :: Token.ofText rest :=
    fun rest => Token.ofText_of_read? rfl
  rw [split, Token.ofText_writeString, colon, cut rest ended]
  rfl

/-! ## Whole values -/

mutual

/-- The text of a value is cut into the tokens of the value. -/
theorem cut_text (v : Value) (legible : ∀ n ∈ v.numbers, n.Legible) : Cut v.text v.tokens := by
  intro rest ended
  cases v with
  | null => exact Token.ofText_of_read? rfl
  | bool b =>
    cases b
    · exact Token.ofText_of_read? rfl
    · exact Token.ofText_of_read? rfl
  | number n => exact Token.ofText_of_read? (legible n (List.mem_singleton_self n) rest ended)
  | string s => exact Token.ofText_writeString
  | array items =>
    have opened : Token.ofText ((array items).text.toList ++ rest) =
        .openArray :: Token.ofText ((",".intercalate (itemTexts items)).toList ++ ']' :: rest) := by
      apply Token.ofText_of_read?
      simp [text, Token.read?]
    have closed : Token.ofText (']' :: rest) = .closeArray :: Token.ofText rest :=
      Token.ofText_of_read? rfl
    rw [opened, ofText_intercalate (cut_itemTexts items legible) (.inl rfl), closed, tokens]
    simp
  | object fields =>
    have opened : Token.ofText ((object fields).text.toList ++ rest) =
        .openObject ::
          Token.ofText ((",".intercalate (fieldTexts fields)).toList ++ '\x7d' :: rest) := by
      apply Token.ofText_of_read?
      simp [text, Token.read?]
    have closed : Token.ofText ('\x7d' :: rest) = .closeObject :: Token.ofText rest :=
      Token.ofText_of_read? rfl
    rw [opened, ofText_intercalate (cut_fieldTexts fields legible) (.inr rfl), closed, tokens]
    simp

theorem cut_itemTexts (items : List Value) (legible : ∀ n ∈ itemNumbers items, n.Legible) :
    List.Forall₂ Cut (itemTexts items) (itemTokens items) := by
  match items with
  | [] => exact .nil
  | v :: more =>
    refine .cons (cut_text v fun n mem => legible n ?_)
      (cut_itemTexts more fun n mem => legible n ?_)
    · exact List.mem_append_left _ mem
    · exact List.mem_append_right _ mem

theorem cut_fieldTexts (fields : List (String × Value))
    (legible : ∀ n ∈ fieldNumbers fields, n.Legible) :
    List.Forall₂ Cut (fieldTexts fields) (fieldTokens fields) := by
  match fields with
  | [] => exact .nil
  | (_, v) :: more =>
    refine .cons (cut_field (cut_text v fun n mem => legible n ?_))
      (cut_fieldTexts more fun n mem => legible n ?_)
    · exact List.mem_append_left _ mem
    · exact List.mem_append_right _ mem

end

/-- A text that is the text of a value has the tokens of the value and no others. -/
theorem ofText_text (v : Value) (legible : ∀ n ∈ v.numbers, n.Legible) :
    Token.ofText v.text.toList = v.tokens := by
  have cut := cut_text v legible [] nofun
  rw [List.append_nil] at cut
  rw [cut, Token.ofText, List.append_nil]

end Value

end Metrology.Json
