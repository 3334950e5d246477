import Metrology.Identity.Conversion
import Metrology.Magnitude.Style
import Metrology.Unit.Catalog
import Metrology.Unit.Symbol

/-!
# Quantities in a known unit

The unit of a quantity is part of its type. Sums are formed within one unit only; products,
quotients and powers have the composite unit; a conversion takes proofs that both units have
identities and one dimension. So nothing here can fail.
-/

namespace Metrology

/-- A magnitude in the unit `u`. -/
structure Quantity (u : UnitExpr) where
  magnitude : Float
deriving DecidableEq

namespace Quantity

variable {u v : UnitExpr}

def zero : Quantity u := ⟨0⟩

instance : Inhabited (Quantity u) := ⟨zero⟩

def nan : Quantity u := ⟨Magnitude.nan⟩

protected def neg (q : Quantity u) : Quantity u := ⟨-q.magnitude⟩

protected def add (q r : Quantity u) : Quantity u := ⟨q.magnitude + r.magnitude⟩

protected def sub (q r : Quantity u) : Quantity u := ⟨q.magnitude - r.magnitude⟩

instance : Neg (Quantity u) := ⟨Quantity.neg⟩

instance : Add (Quantity u) := ⟨Quantity.add⟩

instance : Sub (Quantity u) := ⟨Quantity.sub⟩

/-- A number times a quantity. -/
def scale (q : Quantity u) (k : Float) : Quantity u := ⟨q.magnitude * k⟩

/-- A quantity divided by a number. -/
def unscale (q : Quantity u) (k : Float) : Quantity u := ⟨q.magnitude / k⟩

def abs (q : Quantity u) : Quantity u := ⟨q.magnitude.abs⟩

protected def min (q r : Quantity u) : Quantity u := ⟨Magnitude.smaller q.magnitude r.magnitude⟩

protected def max (q r : Quantity u) : Quantity u := ⟨Magnitude.larger q.magnitude r.magnitude⟩

/-- The order of two quantities; there is none if either magnitude is a NaN. -/
def compare? (q r : Quantity u) : Option Ordering :=
  Magnitude.compare? q.magnitude r.magnitude

/-- Equality of magnitudes as numbers: a NaN differs from itself, the two zeros are equal. -/
def equals (q r : Quantity u) : Bool := q.magnitude == r.magnitude

instance : LT (Quantity u) := ⟨fun q r => q.magnitude < r.magnitude⟩

instance : LE (Quantity u) := ⟨fun q r => q.magnitude ≤ r.magnitude⟩

instance (q r : Quantity u) : Decidable (q < r) :=
  inferInstanceAs (Decidable (q.magnitude < r.magnitude))

instance (q r : Quantity u) : Decidable (q ≤ r) :=
  inferInstanceAs (Decidable (q.magnitude ≤ r.magnitude))

def mul (q : Quantity u) (r : Quantity v) : Quantity (.product u v) :=
  ⟨q.magnitude * r.magnitude⟩

def div (q : Quantity u) (r : Quantity v) : Quantity (.quotient u v) :=
  ⟨q.magnitude / r.magnitude⟩

def pow (q : Quantity u) (n : Exponent) : Quantity (.power u n) :=
  ⟨Magnitude.power q.magnitude n⟩

/-- Converts to another unit of the same dimension. -/
def convert (q : Quantity u) (target : UnitExpr) (hu : u.Evaluates) (ht : target.Evaluates)
    (_ : u.dimension = target.dimension) : Quantity target :=
  ⟨q.magnitude * (u.identity hu).factorTo (target.identity ht)⟩

/-- Respells the unit without touching the magnitude; both spellings have one identity. -/
def respell (q : Quantity u) (target : UnitExpr) (hu : u.Evaluates) (ht : target.Evaluates)
    (_ : u.dimension = target.dimension) (_ : u.identity hu = target.identity ht) :
    Quantity target :=
  ⟨q.magnitude⟩

/-- The plain number that a dimensionless quantity stands for. -/
def toNumber (q : Quantity u) (hu : u.Evaluates) (_ : u.dimension = .dimensionless) : Float :=
  q.magnitude * (u.identity hu).factorTo .scalar

/-- What follows the number: a space and the full symbol, unless the unit is that of plain
numbers. -/
def unitText (u : UnitExpr) : String :=
  if u.identity? = some .scalar then "" else " " ++ u.symbol

/-- The number in a style, then the unit; the width of the style is that of the number. -/
def write (q : Quantity u) (style : Style) : String :=
  style.write q.magnitude ++ unitText u

def text (q : Quantity u) : String :=
  q.write {}

end Quantity

end Metrology
