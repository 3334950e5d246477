/-!
# Faults

Exact arithmetic on ratios, dimensions and identities comes in two forms. The one named with a
question mark answers `none` where the exact result does not exist or does not fit. The forced one
fails with a `Fault`, which names the operation that had no answer.
-/

namespace Metrology

/-- The forced operation that had no answer. -/
inductive Fault where
  | invalidRatio
  | ratioProduct
  | ratioQuotient
  | ratioReciprocal
  | ratioPower
  | dimensionProduct
  | dimensionQuotient
  | dimensionPower
  | identityProduct
  | identityQuotient
  | identityPower
deriving DecidableEq

namespace Fault

def message : Fault → String
  | invalidRatio => "rational scale must have a non-zero denominator and fit in i64"
  | ratioProduct => "rational scale overflow in multiplication"
  | ratioQuotient => "rational scale overflow or division by a zero scale"
  | ratioReciprocal => "reciprocal of a zero scale"
  | ratioPower => "rational scale overflow in power"
  | dimensionProduct => "dimension exponent overflow in multiplication"
  | dimensionQuotient => "dimension exponent overflow in division"
  | dimensionPower => "dimension exponent overflow in power"
  | identityProduct => "unit identity overflow in multiplication"
  | identityQuotient => "unit identity overflow in division"
  | identityPower => "unit identity overflow in power"

/-- Forces an optional answer: its absence is the given fault. -/
def force {α : Type} (fault : Fault) : Option α → Except Fault α
  | some a => .ok a
  | none => .error fault

@[simp] theorem force_some {α : Type} (fault : Fault) (a : α) : fault.force (some a) = .ok a := rfl

@[simp] theorem force_none {α : Type} (fault : Fault) :
    fault.force (none : Option α) = .error fault := rfl

end Fault

end Metrology
