import Metrology.Unit.Expr

/-!
# Unit symbols

The written symbol of a unit expression. A base unit has a symbol of its own, a composite unit has
none; an operand without one stands in parentheses.
-/

namespace Metrology.UnitExpr

/-- The symbol that a unit was given, which is empty for composites. -/
def ownSymbol : UnitExpr → String
  | base unit => unit.symbol
  | _ => ""

/-- Puts the symbol of an operand in parentheses if the operand has no symbol of its own. -/
def operand (u : UnitExpr) (symbol : String) : String :=
  if u.ownSymbol.isEmpty then "(" ++ symbol ++ ")" else symbol

/-- The full symbol. -/
def symbol : UnitExpr → String
  | base unit => unit.symbol
  | product left right => left.operand left.symbol ++ "·" ++ right.operand right.symbol
  | quotient dividend divisor =>
    dividend.operand dividend.symbol ++ "/" ++ divisor.operand divisor.symbol
  | power unit n => unit.operand unit.symbol ++ "^" ++ n.text

end Metrology.UnitExpr
