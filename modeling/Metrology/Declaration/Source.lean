import Metrology.Declaration.Literal
import Metrology.Declaration.Token
import Metrology.Text.Quoted

/-!
# Source text of declarations

A source text is cut into tokens from the front. Blanks and comments separate tokens; a comment that
documents what follows it stands for an attribute with the comment as a string.
-/

namespace Metrology.Declaration

namespace Token

open Literal

def isMark (c : Char) : Bool :=
  "~!@#$%^&*-=+|;:,<.>/?'".toList.contains c

/-- Whether a text begins with a mark. The beginning of a comment is none. -/
def marked : List Char → Bool
  | '/' :: '/' :: _ => false
  | '/' :: '*' :: _ => false
  | c :: _ => isMark c
  | [] => false

/-- The inside of a comment and what follows it; comments nest, and `depth` more are open. -/
def comment? (depth : Nat) : List Char → Option Cut
  | '*' :: '/' :: rest =>
    if depth = 0 then some ([], rest) else (comment? (depth - 1) rest).map (Cut.after ['*', '/'])
  | '/' :: '*' :: rest => (comment? (depth + 1) rest).map (Cut.after ['/', '*'])
  | c :: rest => (comment? depth rest).map (Cut.after [c])
  | [] => none

/-- The attribute that a documenting comment stands for. -/
def documentation (inner : Bool) (comment : List Char) : List Token :=
  mark '#' false :: (if inner then [mark '!' false] else [])
    ++ [opening .square, word "doc", mark '=' false, text (Text.quote (String.ofList comment)),
      closing .square]

/-- What a comment up to the end of a line stands for, given what follows its two slashes. -/
def lineComment (cs : List Char) : List Token :=
  let line := cs.takeWhile (· != '\n')
  match line with
  | '/' :: '/' :: _ => []
  | '/' :: comment => documentation false comment
  | '!' :: comment => documentation true comment
  | _ => []

/-- What a comment in the midst of a text stands for, given its inside. -/
def blockComment : List Char → List Token
  | ['*'] => []
  | '*' :: '*' :: _ => []
  | '*' :: comment => documentation false comment
  | '!' :: comment => documentation true comment
  | _ => []

/-- Reads a word, or the literal that it introduces. -/
def wordOrLiteral? (cs : List Char) : Option (Token × List Char) :=
  let (name, rest) := Literal.word cs
  let make (token : String → Token) (cut : Option Cut) : Option (Token × List Char) :=
    cut.map fun cut =>
      let (source, rest) := suffixed (cut.after name)
      (token (String.ofList source), rest)
  match String.ofList name, rest with
  | "r", '"' :: _ => make text (raw? rest)
  | "b", '"' :: rest | "c", '"' :: rest => make literal ((through? '"' rest).map (Cut.after ['"']))
  | "br", '"' :: _ | "cr", '"' :: _ | "br", '#' :: _ | "cr", '#' :: _ => make literal (raw? rest)
  | "b", '\'' :: rest => make literal ((through? '\'' rest).map (Cut.after ['\'']))
  | "r", '#' :: c :: tail =>
    if isWordStart c then
      let (inner, rest) := Literal.word (c :: tail)
      some (word (String.ofList (name ++ '#' :: inner)), rest)
    else make text (raw? rest)
  | name, rest => some (word name, rest)

/-- Reads the literal, the word or the mark at the front of a text. -/
def readLeaf? (cs : List Char) : Option (Token × List Char) :=
  let make (token : String → Token) (cut : Cut) : Token × List Char :=
    (token (String.ofList (suffixed cut).1), (suffixed cut).2)
  match cs with
  | '"' :: rest => (through? '"' rest).map fun cut => make text (cut.after ['"'])
  | '\'' :: '\\' :: c :: rest =>
    (through? '\'' rest).map fun cut => make literal (cut.after ['\'', '\\', c])
  | '\'' :: c :: '\'' :: rest => some (make literal (['\'', c, '\''], rest))
  | '\'' :: c :: rest => if isWordStart c then some (mark '\'' true, c :: rest) else none
  | c :: rest =>
    if c.isDigit then
      (numeral? (c :: rest)).map fun (source, rest) => (literal (String.ofList source), rest)
    else if isWordStart c then wordOrLiteral? (c :: rest)
    else if isMark c then some (mark c (marked rest), rest)
    else none
  | [] => none

/-- Reads what stands at the front of a text: a blank, a comment or a token. -/
def read? (cs : List Char) : Option (List Token × List Char) :=
  match cs with
  | '/' :: '/' :: rest => some (lineComment rest, rest.dropWhile (· != '\n'))
  | '/' :: '*' :: rest => (comment? 0 rest).map fun (inside, rest) => (blockComment inside, rest)
  | '(' :: rest => some ([opening .round], rest)
  | '[' :: rest => some ([opening .square], rest)
  | '\x7b' :: rest => some ([opening .curly], rest)
  | ')' :: rest => some ([closing .round], rest)
  | ']' :: rest => some ([closing .square], rest)
  | '\x7d' :: rest => some ([closing .curly], rest)
  | c :: rest =>
    if isBlank c then some ([], rest)
    else (readLeaf? (c :: rest)).map fun (token, rest) => ([token], rest)
  | [] => none

/-- Cuts a text into tokens; each step has to consume something. -/
def cut? (cs : List Char) : Option (List Token) :=
  if cs.isEmpty then some []
  else
    match read? cs with
    | none => none
    | some (tokens, rest) =>
      if h : rest.length < cs.length then
        have := h
        (cut? rest).map (tokens ++ ·)
      else none
termination_by cs.length
decreasing_by
  assumption

/-- The tokens of a text whose brackets pair up. -/
def ofText? (s : String) : Option (List Token) :=
  (cut? s.toList).filter (balanced [])

end Token

end Metrology.Declaration
