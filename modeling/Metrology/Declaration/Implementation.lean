import Metrology.Declaration.Attribute
import Metrology.Declaration.Source

/-!
# Implementations of declared units

From a declaration the implementation of the unit is generated: its ratio, its power of ten, its
dimension and its symbol, in this order. What was declared is copied token by token; an absent ratio
is one, an absent power of ten is zero. The text of an implementation has one space between tokens.
-/

namespace Metrology.Declaration

/-- The path of the type of ratios. -/
def ratioPath : List String := ["crate", ":", ":", "Ratio"]

def sources (tokens : List Token) : List String :=
  tokens.map Token.source

/-- The expression for the ratio. -/
def ratioExpression : Option Scale → List String
  | none => ratioPath ++ [":", ":", "ONE"]
  | some (.whole num) => ratioPath ++ [":", ":", "new", "("] ++ sources num ++ [",", "1", ")"]
  | some (.fraction num den) =>
    ratioPath ++ [":", ":", "new", "("] ++ sources num ++ [","] ++ sources den ++ [")"]

/-- The expression for the power of ten. -/
def exponentExpression : Option (List Token) → List String
  | none => ["0"]
  | some tokens => sources tokens

namespace UnitDeclaration

/-- The tokens of the implementation for the type of the given name. -/
def implementation (d : UnitDeclaration) (name : String) : List String :=
  ["impl", "crate", ":", ":", "Unit", "for", name, "\x7b"]
    ++ ["const", "RATIO", ":"] ++ ratioPath ++ ["="] ++ ratioExpression d.ratio ++ [";"]
    ++ ["const", "EXPONENT", ":", "i32", "="] ++ exponentExpression d.exponent ++ [";"]
    ++ ["type", "Dim", "="] ++ sources d.dimension ++ [";"]
    ++ ["const", "SYMBOL", ":", "&", "'", "static", "str", "=", d.symbol.source, ";"]
    ++ ["\x7d"]

end UnitDeclaration

/-- Generates the implementation of a unit from its name and attributes. -/
def implement (name : String) (attributes : List (List Token)) : Except Fault String :=
  (ofAttributes attributes).map fun d => " ".intercalate (d.implementation name)

end Metrology.Declaration
