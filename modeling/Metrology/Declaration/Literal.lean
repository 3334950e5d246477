/-!
# Literals of declarations

Where a word, a string or a numeral at the front of a source text ends. A numeral is decimal, with a
fraction or an exponent or both, or an integer in base ten, two, eight or sixteen; a word that
follows a literal without a gap is its suffix and belongs to it.
-/

namespace Metrology.Declaration

/-- The characters that were cut from the front of a text, and the rest. -/
abbrev Cut := List Char × List Char

def Cut.after (front : List Char) (cut : Cut) : Cut :=
  (front ++ cut.1, cut.2)

namespace Literal

/-- The characters between tokens. -/
def isBlank (c : Char) : Bool :=
  ('\t' ≤ c && c ≤ '\r') || ('\u2000' ≤ c && c ≤ '\u200a')
    || " \u0085\u00a0\u1680\u200e\u200f\u2028\u2029\u202f\u205f\u3000".toList.contains c

/-- Identifiers begin with a letter or an underscore; beyond ASCII every character counts that is
not blank. -/
def isWordStart (c : Char) : Bool :=
  c.isAlpha || c == '_' || (0x80 ≤ c.toNat && !isBlank c)

def isWordRest (c : Char) : Bool :=
  isWordStart c || c.isDigit

def word (cs : List Char) : Cut :=
  (cs.takeWhile isWordRest, cs.dropWhile isWordRest)

/-- The literal together with the suffix that follows it, if one does. -/
def suffixed (cut : Cut) : Cut :=
  match cut.2 with
  | c :: _ => if isWordStart c then (word cut.2).after cut.1 else cut
  | [] => cut

/-! ### Strings -/

/-- Cuts a text after the next `close`; a backslash protects the character after it. -/
def through? (close : Char) : List Char → Option Cut
  | '\\' :: c :: rest => (through? close rest).map (Cut.after ['\\', c])
  | c :: rest => if c = close then some ([c], rest) else (through? close rest).map (Cut.after [c])
  | [] => none

/-- Cuts a text after the next quote that is followed by the given hashes. -/
def throughRaw? (hashes : List Char) : List Char → Option Cut
  | c :: rest =>
    if c = '"' ∧ hashes.isPrefixOf rest then some (c :: hashes, rest.drop hashes.length)
    else (throughRaw? hashes rest).map (Cut.after [c])
  | [] => none

/-- Reads hashes, a quote, and on to the quote with as many hashes after it. -/
def raw? (cs : List Char) : Option Cut :=
  let hashes := cs.takeWhile (· == '#')
  match cs.dropWhile (· == '#') with
  | '"' :: rest => (throughRaw? hashes rest).map (Cut.after (hashes ++ ['"']))
  | _ => none

/-! ### Numerals -/

/-- Decimal digits and the underscores that group them. -/
def isDigitOrGap (c : Char) : Bool :=
  c.isDigit || c == '_'

/-- The fraction of a decimal numeral: a point and the digits after it, which may be missing. A point
before another point or a word is none of the numeral's. -/
def fraction? : List Char → Option Cut
  | '.' :: rest =>
    if rest.head?.any fun c => c == '.' || isWordStart c then none
    else some ('.' :: rest.takeWhile isDigitOrGap, rest.dropWhile isDigitOrGap)
  | _ => none

def sign : List Char → Cut
  | '+' :: rest => (['+'], rest)
  | '-' :: rest => (['-'], rest)
  | rest => ([], rest)

/-- The exponent of a decimal numeral: its mark, perhaps a sign, and digits, at least one. -/
def exponent? : List Char → Option Cut
  | mark :: rest =>
    if mark = 'e' ∨ mark = 'E' then
      let gap := rest.takeWhile (· == '_')
      let (sign, rest) := sign (rest.dropWhile (· == '_'))
      let digits := rest.takeWhile isDigitOrGap
      if digits.any Char.isDigit then
        some (mark :: gap ++ sign ++ digits, rest.dropWhile isDigitOrGap)
      else none
    else none
  | [] => none

/-- A decimal numeral with a fraction or an exponent. -/
def decimal? (cs : List Char) : Option Cut :=
  let whole := cs.takeWhile isDigitOrGap
  let rest := cs.dropWhile isDigitOrGap
  match fraction? rest with
  | some (places, rest) =>
    match exponent? rest with
    | some power => some (power.after (whole ++ places))
    | none => some (whole ++ places, rest)
  | none => (exponent? rest).map (Cut.after whole)

/-- Whether a character may stand among the digits of a base. -/
def isDigitOf (base : Nat) (c : Char) : Bool :=
  c == '_' || (c.isDigit && c.toNat < '0'.toNat + base)
    || (base == 16 && (('a' ≤ c && c ≤ 'f') || ('A' ≤ c && c ≤ 'F')))

/-- The base of an integer, and its digits in the text after the mark for the base. -/
def radix : List Char → Nat × Cut
  | '0' :: 'x' :: rest => (16, ['0', 'x'], rest)
  | '0' :: 'o' :: rest => (8, ['0', 'o'], rest)
  | '0' :: 'b' :: rest => (2, ['0', 'b'], rest)
  | cs => (10, [], cs)

/-- An integer: its digits all belong to the base, and there is at least one. -/
def integer? (cs : List Char) : Option Cut :=
  let (base, mark, rest) := radix cs
  let digits := rest.takeWhile (isDigitOf base)
  let rest := rest.dropWhile (isDigitOf base)
  if digits.all (· == '_') || rest.head?.any Char.isDigit then none else some (mark ++ digits, rest)

/-- A numeral, its suffix included. -/
def numeral? (cs : List Char) : Option Cut :=
  ((decimal? cs).orElse fun _ => integer? cs).map suffixed

end Literal

end Metrology.Declaration
