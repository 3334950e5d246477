import Metrology.Dimension
import Metrology.Ratio

/-!
# Unit identities

A unit is identified by a ratio, a power of ten and a dimension: `ratio × 10 ^ exponent` times the
coherent unit of that dimension. Identities are composed part by part, the ratio first, and two of
them are the same unit only if all three parts agree: `10 × 10^0` and `1 × 10^1` describe one scale
but are two identities.
-/

namespace Metrology

/-- What a unit is: a ratio, a power of ten and a dimension. -/
@[ext] structure Identity where
  ratio : Ratio
  exponent : Exponent
  dimension : Dimension
deriving DecidableEq

namespace Identity

/-- The identity of plain numbers. -/
def scalar : Identity :=
  ⟨.one, .zero, .dimensionless⟩

instance : Inhabited Identity := ⟨scalar⟩

def isScalar (i : Identity) : Bool := i == scalar

def sameDimension (a b : Identity) : Bool := a.dimension == b.dimension

/-- The product, if each of the three parts has one that fits. -/
def mul? (a b : Identity) : Option Identity := do
  let ratio ← a.ratio.mul? b.ratio
  let exponent ← a.exponent.add? b.exponent
  let dimension ← a.dimension.mul? b.dimension
  return { ratio, exponent, dimension }

/-- The quotient, if each of the three parts has one that fits. -/
def div? (a b : Identity) : Option Identity := do
  let ratio ← a.ratio.div? b.ratio
  let exponent ← a.exponent.sub? b.exponent
  let dimension ← a.dimension.div? b.dimension
  return { ratio, exponent, dimension }

/-- The power, if each of the three parts has one that fits. -/
def pow? (a : Identity) (n : Exponent) : Option Identity := do
  let ratio ← a.ratio.pow? n
  let exponent ← a.exponent.mul? n
  let dimension ← a.dimension.pow? n
  return { ratio, exponent, dimension }

def mul (a b : Identity) : Except Fault Identity :=
  Fault.identityProduct.force (a.mul? b)

def div (a b : Identity) : Except Fault Identity :=
  Fault.identityQuotient.force (a.div? b)

def pow (a : Identity) (n : Exponent) : Except Fault Identity :=
  Fault.identityPower.force (a.pow? n)

/-- The ratio, the power of ten even when it is zero, and the dimension in brackets. -/
def text (i : Identity) : String :=
  i.ratio.text ++ " × 10^" ++ i.exponent.text ++ " [" ++ i.dimension.text ++ "]"

end Identity

end Metrology
