import Metrology.Quantity
import Metrology.Refusal

/-!
# Quantities that carry their unit

The unit of a checked quantity is a value. Operations compose or compare identities when they run,
and refuse with a cause: sums and comparisons unless both identities are the same, conversions
unless the dimensions are, products, quotients and powers only if the composed identity does not
fit.
-/

namespace Metrology

/-- A magnitude and the identity of its unit. -/
structure CheckedQuantity where
  magnitude : Float
  identity : Identity
deriving DecidableEq

/-- The outcome of a checked operation. -/
abbrev Checked (α : Type) := Attempt Refusal α

namespace CheckedQuantity

/-- Builds a quantity from loose parts: seven exponents, then a nonzero scale, then one that fits. -/
def ofParts (magnitude : Float) (num den : Int64) (exponent : Exponent)
    (exponents : List Exponent) : Checked CheckedQuantity :=
  (Attempt.ofExcept (Dimension.ofExponents exponents)).andThen fun dimension =>
    if num = 0 ∨ den = 0 then .reject (.zeroScale num den) (.zeroScale num den)
    else match Ratio.ofWords? num den with
      | some ratio => .accept ⟨magnitude, ratio, exponent, dimension⟩
      | none => .refuse .overflow

/-- Forgets that the unit is known. -/
def ofQuantity {u : UnitExpr} (q : Quantity u) (hu : u.Evaluates) : CheckedQuantity :=
  ⟨q.magnitude, u.identity hu⟩

/-- Accepts two quantities in one unit only. -/
def requireSame (operation : Comparison) (a b : CheckedQuantity) : Checked PUnit :=
  if a.identity = b.identity then .accept ⟨⟩
  else .reject (.unlikeUnits operation a.identity b.identity)
    (.unitMismatch a.identity b.identity)

/-- The sum of two quantities in one unit. -/
def add (a b : CheckedQuantity) : Checked CheckedQuantity :=
  (requireSame .addition a b).map fun _ => ⟨a.magnitude + b.magnitude, a.identity⟩

/-- The difference of two quantities in one unit. -/
def sub (a b : CheckedQuantity) : Checked CheckedQuantity :=
  (requireSame .subtraction a b).map fun _ => ⟨a.magnitude - b.magnitude, a.identity⟩

/-- Replaces an accumulator by the outcome of an operation, or leaves it alone. -/
def update (accumulator : CheckedQuantity) (outcome : Checked CheckedQuantity) :
    CheckedQuantity × Checked PUnit :=
  match outcome.result with
  | .ok next => (next, outcome.map fun _ => ⟨⟩)
  | .error _ => (accumulator, outcome.map fun _ => ⟨⟩)

/-- Adds to an accumulator, which stays as it was if the sum is refused. -/
def addTo (accumulator operand : CheckedQuantity) : CheckedQuantity × Checked PUnit :=
  accumulator.update (accumulator.add operand)

/-- Subtracts from an accumulator, which stays as it was if the difference is refused. -/
def subFrom (accumulator operand : CheckedQuantity) : CheckedQuantity × Checked PUnit :=
  accumulator.update (accumulator.sub operand)

/-- The order of two quantities in one unit; there is none if a magnitude is a NaN. -/
def compare (a b : CheckedQuantity) : Checked (Option Ordering) :=
  (requireSame .comparison a b).map fun _ => Magnitude.compare? a.magnitude b.magnitude

/-- Accepts a composed identity if it fits. -/
def compose (magnitude : Float) (identity? : Option Identity) : Checked CheckedQuantity :=
  match identity? with
  | some identity => .accept ⟨magnitude, identity⟩
  | none => .refuse .overflow

def mul (a b : CheckedQuantity) : Checked CheckedQuantity :=
  compose (a.magnitude * b.magnitude) (a.identity.mul? b.identity)

def div (a b : CheckedQuantity) : Checked CheckedQuantity :=
  compose (a.magnitude / b.magnitude) (a.identity.div? b.identity)

def pow (a : CheckedQuantity) (n : Exponent) : Checked CheckedQuantity :=
  compose (Magnitude.power a.magnitude n) (a.identity.pow? n)

def neg (a : CheckedQuantity) : CheckedQuantity := ⟨-a.magnitude, a.identity⟩

/-- A number times a quantity. -/
def scale (a : CheckedQuantity) (k : Float) : CheckedQuantity := ⟨a.magnitude * k, a.identity⟩

/-- A quantity divided by a number. -/
def unscale (a : CheckedQuantity) (k : Float) : CheckedQuantity := ⟨a.magnitude / k, a.identity⟩

/-- Converts to another unit of the same dimension. -/
def convert (a : CheckedQuantity) (target : Identity) : Checked CheckedQuantity :=
  if a.identity.dimension = target.dimension then
    .accept ⟨a.magnitude * a.identity.factorTo target, target⟩
  else .reject (.unlikeDimensions a.identity.dimension target.dimension)
    (.dimensionMismatch a.identity.dimension target.dimension)

/-- The plain number that a dimensionless quantity stands for. -/
def toNumber (a : CheckedQuantity) : Checked Float :=
  (a.convert .scalar).map magnitude

/-- Views a quantity in a known unit, which must have exactly its identity. -/
def view (a : CheckedQuantity) (u : UnitExpr) (hu : u.Evaluates) : Checked (Quantity u) :=
  if a.identity = u.identity hu then .accept ⟨a.magnitude⟩
  else .reject (.unlikeView a.identity (u.identity hu)) (.unitMismatch a.identity (u.identity hu))

/-- Equality of magnitudes as numbers, in one unit: a NaN differs from itself. -/
def equals (a b : CheckedQuantity) : Bool :=
  a.magnitude == b.magnitude && decide (a.identity = b.identity)

/-- The number in a style, then the identity in parentheses. -/
def write (a : CheckedQuantity) (style : Style) : String :=
  style.write a.magnitude ++ " (" ++ a.identity.text ++ ")"

def text (a : CheckedQuantity) : String :=
  a.write {}

end CheckedQuantity

end Metrology
