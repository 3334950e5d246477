import Metrology.Unit.Expr

/-!
# Unit catalog

The units of length, time and velocity that come with the library, and the unit of plain numbers.
-/

namespace Metrology.UnitExpr

def exponentOf (n : Int) (range : Fits32 n := by decide) : Exponent :=
  ⟨n, range⟩

/-- Plain numbers: no scale, no dimension, no symbol. -/
def scalar : UnitExpr :=
  base { symbol := "", dimension := .dimensionless }

def metre : UnitExpr :=
  base { symbol := "m", dimension := .of .length }

def kilometre : UnitExpr :=
  base { symbol := "km", exponent := exponentOf 3, dimension := .of .length }

def second : UnitExpr :=
  base { symbol := "s", dimension := .of .time }

def millisecond : UnitExpr :=
  base { symbol := "ms", exponent := exponentOf (-3), dimension := .of .time }

def microsecond : UnitExpr :=
  base { symbol := "µs", exponent := exponentOf (-6), dimension := .of .time }

/-- An hour is `36/10` thousands of seconds. -/
def hour : UnitExpr :=
  base {
    symbol := "h"
    ratio := ⟨18, 5, by decide, by decide, by decide, by decide⟩
    exponent := exponentOf 3
    dimension := .of .time }

def metrePerSecond : UnitExpr := quotient metre second

def kilometrePerHour : UnitExpr := quotient kilometre hour

theorem measuresVelocity_kilometrePerHour : kilometrePerHour.measuresVelocity = true := by
  decide

end Metrology.UnitExpr
