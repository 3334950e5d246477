import Metrology.Declaration.Token

/-!
# Words and operators of declarations

Which words are reserved and what they introduce, and which marks form an operator between two
operands. Of two operators that begin alike the longer one is meant.
-/

namespace Metrology.Declaration

open Token (beginWith)

/-- Words that are no identifiers. -/
def reservedWords : List String :=
  ["_", "abstract", "as", "async", "await", "become", "box", "break", "const", "continue", "crate",
    "do", "dyn", "else", "enum", "extern", "false", "final", "fn", "for", "if", "impl", "in", "let",
    "loop", "macro", "match", "mod", "move", "mut", "override", "priv", "pub", "ref", "return",
    "Self", "self", "static", "struct", "super", "trait", "true", "try", "type", "typeof", "unsafe",
    "unsized", "use", "virtual", "where", "while", "yield"]

def isReserved (name : String) : Bool :=
  reservedWords.contains name

/-- Words that name a surrounding scope; they take no arguments. -/
def isScope (name : String) : Bool :=
  ["self", "super", "crate"].contains name

/-- Words that may begin a path. -/
def beginsPath (name : String) : Bool :=
  !isReserved name || isScope name || name == "Self"

/-- Words that are expressions by themselves. -/
def isConstantWord (name : String) : Bool :=
  ["true", "false", "_", "continue"].contains name

/-- Words that introduce a block. -/
def beginsBlock (name : String) : Bool :=
  ["async", "const", "loop", "try", "unsafe"].contains name

/-- How an operator between two operands binds. -/
inductive Binding where
  /-- Tighter than a comparison. -/
  | tight
  | comparison
  /-- Looser than a comparison. -/
  | logical
  | assignment
deriving DecidableEq

/-- The operators between two operands, longer ones first. -/
def infixOperators : List (List Char × Binding) :=
  [(['<', '<', '='], .assignment), (['>', '>', '='], .assignment), (['+', '='], .assignment),
    (['-', '='], .assignment), (['*', '='], .assignment), (['/', '='], .assignment),
    (['%', '='], .assignment), (['^', '='], .assignment), (['&', '='], .assignment),
    (['|', '='], .assignment), (['&', '&'], .logical), (['|', '|'], .logical),
    (['<', '<'], .tight), (['>', '>'], .tight), (['=', '='], .comparison),
    (['<', '='], .comparison), (['!', '='], .comparison), (['>', '='], .comparison),
    (['+'], .tight), (['-'], .tight), (['*'], .tight), (['/'], .tight), (['%'], .tight),
    (['^'], .tight), (['&'], .tight), (['|'], .tight), (['<'], .comparison), (['>'], .comparison)]

/-- The operator at the front of some tokens: how many marks it has, and how it binds. -/
def infixAt? (tokens : List Token) : Option (Nat × Binding) :=
  match infixOperators.find? fun operator => beginWith operator.1 tokens with
  | some (marks, binding) => some (marks.length, binding)
  | none =>
    if beginWith ['='] tokens && !beginWith ['=', '>'] tokens then some (1, .assignment) else none

/-- Whether the next token ends the list that a bracket opened. -/
def atListEnd : List Token → Bool
  | [] => true
  | .closing _ :: _ => true
  | _ => false

/-- What ends a range that has no upper end; a brace does where it opens a body. -/
def endsRange (governs : Bool) (tokens : List Token) : Bool :=
  atListEnd tokens || tokens.head? == some (.word "as")
    || (governs && tokens.head? == some (.opening .curly))
    || (beginWith ['.'] tokens && !beginWith ['.', '.'] tokens)
    || [[','], [';'], ['?'], ['='], ['+'], ['/'], ['%'], ['^'], ['>'], ['<', '='], ['!', '='],
      ['-', '='], ['*', '='], ['&', '='], ['|', '='], ['<', '<', '=']].any (beginWith · tokens)

end Metrology.Declaration
