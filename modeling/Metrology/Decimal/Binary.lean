/-!
# Finite doubles as exact fractions

The absolute value of a finite double is `mantissa * 2 ^ exponent`. The reals that round to it reach
halfway to its two neighbours; the neighbour below is nearer at a power of two.
-/

namespace Metrology.Decimal

/-- The power of two with the given exponent. -/
def twos (n : Nat) : Nat := Nat.pow 2 n

/-- The power of ten with the given exponent. -/
def tens (n : Nat) : Nat := Nat.pow 10 n

/-- The absolute value of a finite double: `mantissa * 2 ^ exponent`. -/
structure Binary where
  mantissa : Nat
  exponent : Int
  /-- Whether the gap to the value below is half the gap to the value above. -/
  narrowBelow : Bool
deriving DecidableEq

namespace Binary

/-- Reads the fields of a finite double; the sign is left out. -/
def ofFloat (x : Float) : Binary :=
  let bits : Nat := x.toBits.toNat
  let biased : Nat := bits / twos 52 % twos 11
  let fraction : Nat := bits % twos 52
  if biased = 0 then ⟨fraction, -1074, false⟩
  else ⟨twos 52 + fraction, (biased : Int) - 1075, fraction == 0 && biased != 1⟩

/-- The value as a quotient of naturals. -/
def fraction (b : Binary) : Nat × Nat :=
  (b.mantissa * twos b.exponent.toNat, twos (-b.exponent).toNat)

end Binary

end Metrology.Decimal
