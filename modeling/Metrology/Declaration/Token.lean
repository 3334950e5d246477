/-!
# Tokens of declarations

Units are declared in source text of the language that the declarations are generated for. A token
keeps its source text; a bracket is a token of its own, and so is every punctuation character. Marks
that follow one another without a gap may form an operator together, so each of them remembers
whether the next one is joined to it.
-/

namespace Metrology.Declaration

/-- The three kinds of brackets. -/
inductive Bracket where
  | round
  | square
  | curly
deriving DecidableEq

/-- A token of a declaration. -/
inductive Token where
  /-- An identifier or a reserved word. -/
  | word (name : String)
  /-- A string literal, with its quotes. -/
  | text (source : String)
  /-- Any other literal. -/
  | literal (source : String)
  /-- A punctuation character, and whether another one follows without a gap. -/
  | mark (c : Char) (joined : Bool)
  | opening (b : Bracket)
  | closing (b : Bracket)
deriving DecidableEq

namespace Bracket

def openingChar : Bracket → Char
  | round => '('
  | square => '['
  | curly => '\x7b'

def closingChar : Bracket → Char
  | round => ')'
  | square => ']'
  | curly => '\x7d'

end Bracket

namespace Token

/-- The source text of a token. -/
def source : Token → String
  | word name => name
  | text source => source
  | literal source => source
  | mark c _ => String.singleton c
  | opening b => String.singleton b.openingChar
  | closing b => String.singleton b.closingChar

/-- Whether brackets pair up, given those that are open. -/
def balanced : List Bracket → List Token → Bool
  | pending, opening b :: rest => balanced (b :: pending) rest
  | b :: pending, closing c :: rest => b == c && balanced pending rest
  | [], closing _ :: _ => false
  | pending, _ :: rest => balanced pending rest
  | pending, [] => pending.isEmpty

/-- Whether tokens begin with an operator: its marks, each joined to the next. -/
def beginWith : List Char → List Token → Bool
  | [], _ => true
  | [c], mark d _ :: _ => c == d
  | c :: operator, mark d true :: rest => c == d && beginWith operator rest
  | _, _ => false

end Token

end Metrology.Declaration
