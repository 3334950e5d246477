import Metrology.Decimal.Shortest

/-!
# Layout of decimals

Where the point goes, when an exponent is written, and how. A `Layout` records the decisions that
written formats take differently.
-/

namespace Metrology.Decimal

/-- How a decimal is laid out. -/
structure Layout where
  tie : Tie
  /-- The exponents of the first digit for which no exponent is written; `none` for all. -/
  positional : Option (Int × Int)
  /-- Whether an integer is followed by `.0` when no exponent is written. -/
  pointZero : Bool
  /-- Whether a plus sign stands before an exponent that is not negative. -/
  plusExponent : Bool

/-- The digits of a number without the zeros at its end; zero has the digit `0`. -/
def significant (n : Nat) : List Char :=
  match (Nat.toDigits 10 n).reverse.dropWhile (· == '0') with
  | [] => ['0']
  | digits => digits.reverse

/-- Writes digits of which the first stands for `10 ^ first`, with the point in place. -/
def positionalText (pointZero : Bool) (digits : List Char) (first : Int) : List Char :=
  let whole := (first + 1).toNat
  if first < 0 then '0' :: '.' :: List.replicate (-first - 1).toNat '0' ++ digits
  else if digits.length ≤ whole then
    digits ++ List.replicate (whole - digits.length) '0' ++ (if pointZero then ['.', '0'] else [])
  else digits.take whole ++ '.' :: digits.drop whole

/-- Writes one digit before the point and the exponent of that digit at the end. -/
def exponentText (plus : Bool) (digits : List Char) (first : Int) : List Char :=
  let point := if digits.length ≤ 1 then [] else ['.']
  let sign := if plus && 0 ≤ first then ['+'] else []
  digits.take 1 ++ point ++ digits.drop 1 ++ 'e' :: sign ++ first.repr.toList

namespace Layout

/-- The text of a decimal. -/
def write (l : Layout) (d : Scaled) : String :=
  let digits := significant d.digits
  let first := d.exponent + (Nat.toDigits 10 d.digits).length - 1
  let written :=
    match l.positional with
    | none => positionalText l.pointZero digits first
    | some (least, greatest) =>
      if least ≤ first && first ≤ greatest then positionalText l.pointZero digits first
      else exponentText l.plusExponent digits first
  String.ofList written

/-- The text of the absolute value of a finite double. -/
def writeFinite (l : Layout) (x : Float) : String :=
  l.write ((Binary.ofFloat x).shortest l.tie)

end Layout

end Metrology.Decimal
