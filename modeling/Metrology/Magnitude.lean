import Metrology.Exponent
import Metrology.Iteration

/-!
# Magnitudes

The number in front of a unit is a double. Its integer powers are repeated products or quotients,
each rounded: the order of the roundings is part of the result, so no shorter product is used.
-/

namespace Metrology.Magnitude

/-- The product of `n` copies of `x`, formed from one by one multiplication after the other. -/
def natPower (x : Float) (n : Nat) : Float :=
  iterate (· * x) n 1

/-- One divided by `x`, `n` times over. -/
def natInverse (x : Float) (n : Nat) : Float :=
  iterate (· / x) n 1

/-- An integer power: repeated products upwards from zero, repeated quotients downwards. -/
def power (x : Float) (n : Exponent) : Float :=
  if n.toInt < 0 then natInverse x n.toInt.natAbs else natPower x n.toInt.natAbs

/-- The smaller of two numbers; of a number and a NaN, the number. -/
def smaller (x y : Float) : Float :=
  if x.isNaN then y else if y < x then y else x

/-- The larger of two numbers; of a number and a NaN, the number. -/
def larger (x y : Float) : Float :=
  if x.isNaN then y else if x < y then y else x

/-- The order of two magnitudes; there is none if either is a NaN. -/
def compare? (x y : Float) : Option Ordering :=
  if x < y then some .lt
  else if x == y then some .eq
  else if y < x then some .gt
  else none

/-- The number that is none. -/
def nan : Float := 0 / 0

/-- Whether the sign bit is set, as it is for negative zero. -/
def isNegative (x : Float) : Bool :=
  9223372036854775808 ≤ x.toBits.toNat

end Metrology.Magnitude
