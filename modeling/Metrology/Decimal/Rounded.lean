import Metrology.Decimal.Binary

/-!
# Decimals with a fixed number of places

The exact value is rounded once, to the nearest multiple of the last place; half a place goes to the
even neighbour.
-/

namespace Metrology.Decimal

/-- The integer nearest to a quotient; a half goes to the even neighbour. -/
def roundDiv (num den : Nat) : Nat :=
  let quotient := num / den
  let twice := 2 * (num % den)
  if twice < den then quotient
  else if den < twice then quotient + 1
  else quotient + quotient % 2

namespace Binary

/-- The value in units of the last of `places` places, rounded. -/
def rounded (b : Binary) (places : Nat) : Nat :=
  let (num, den) := b.fraction
  roundDiv (num * tens places) den

end Binary

/-- The last `width` digits of a number, zeros in front. -/
def lastDigits (width n : Nat) : List Char :=
  let digits := Nat.toDigits 10 (n % tens width)
  List.replicate (width - digits.length) '0' ++ digits

/-- The text of the absolute value of a finite double with exactly `places` places. -/
def writeRounded (places : Nat) (x : Float) : String :=
  let units := (Binary.ofFloat x).rounded places
  let whole := (units / tens places).repr
  if places = 0 then whole else whole ++ "." ++ String.ofList (lastDigits places units)

end Metrology.Decimal
