import Metrology.Dimension.Formal
import Metrology.Identity

/-!
# Unit expressions

Units are built from named base units by products, quotients and integer powers. The three parts of
an expression's identity are computed side by side: the ratio and the power of ten on machine words,
which can fail, and the dimension on unbounded exponents, which cannot. `identity?` puts them
together, so an expression has an identity exactly when every part fits.
-/

namespace Metrology

/-- A named unit. -/
structure BaseUnit where
  symbol : String
  ratio : Ratio := .one
  exponent : Exponent := .zero
  dimension : FormalDimension
deriving DecidableEq

/-- A unit: a base unit, a product, a quotient or an integer power. -/
inductive UnitExpr where
  | base (unit : BaseUnit)
  | product (left right : UnitExpr)
  | quotient (dividend divisor : UnitExpr)
  | power (unit : UnitExpr) (n : Exponent)
deriving DecidableEq

namespace UnitExpr

/-- The rational part of the scale, if it fits at every node. -/
def ratio? : UnitExpr → Option Ratio
  | base unit => some unit.ratio
  | product left right => do
    let a ← left.ratio?
    let b ← right.ratio?
    a.mul? b
  | quotient dividend divisor => do
    let a ← dividend.ratio?
    let b ← divisor.ratio?
    a.div? b
  | power unit n => do
    let a ← unit.ratio?
    a.pow? n

/-- The power of ten of the scale, if it fits at every node. -/
def exponent? : UnitExpr → Option Exponent
  | base unit => some unit.exponent
  | product left right => do
    let a ← left.exponent?
    let b ← right.exponent?
    a.add? b
  | quotient dividend divisor => do
    let a ← dividend.exponent?
    let b ← divisor.exponent?
    a.sub? b
  | power unit n => do
    let a ← unit.exponent?
    a.mul? n

def dimension : UnitExpr → FormalDimension
  | base unit => unit.dimension
  | product left right => left.dimension * right.dimension
  | quotient dividend divisor => dividend.dimension / divisor.dimension
  | power unit n => unit.dimension ^ n.toInt

/-- The identity of a unit, if all of its parts fit. -/
def identity? (u : UnitExpr) : Option Identity := do
  let ratio ← u.ratio?
  let exponent ← u.exponent?
  let dimension ← u.dimension.toDimension?
  return { ratio, exponent, dimension }

/-- Whether a unit has an identity. -/
def Evaluates (u : UnitExpr) : Prop :=
  u.identity?.isSome = true

instance (u : UnitExpr) : Decidable u.Evaluates :=
  inferInstanceAs (Decidable (_ = true))

/-- The identity of a unit that has one. -/
def identity (u : UnitExpr) (evaluates : u.Evaluates) : Identity :=
  u.identity?.get evaluates

theorem identity?_eq_some {u : UnitExpr} (evaluates : u.Evaluates) :
    u.identity? = some (u.identity evaluates) :=
  (Option.some_get evaluates).symm

/-- Whether a unit measures just the given base quantity. -/
def measures (u : UnitExpr) (base : BaseQuantity) : Bool :=
  u.dimension == .of base

/-- Whether a unit measures length per time. -/
def measuresVelocity (u : UnitExpr) : Bool :=
  u.dimension == .of .length / .of .time

end UnitExpr

end Metrology
