import Metrology.Decimal.Layout
import Metrology.Decimal.Rounded
import Metrology.Magnitude

/-!
# Magnitudes as text

A magnitude is written with the fewest digits that read back, never with an exponent, or with a
fixed number of places. A `Style` adds a sign, a width and a fill.
-/

namespace Metrology

namespace Magnitude

/-- Magnitudes are written positionally, integers without a point; of two shortest decimals at the
same distance the greater is taken. -/
def plain : Decimal.Layout :=
  { tie := .upward, positional := none, pointZero := false, plusExponent := false }

/-- The text of a magnitude without its sign. -/
def unsignedText (x : Float) (precision : Option Nat) : String :=
  if x.isNaN then "NaN"
  else if x.isInf then "inf"
  else match precision with
    | none => plain.writeFinite x
    | some places => Decimal.writeRounded places x

/-- The sign that is written: a minus for the sign bit, a plus on request, none for a NaN. -/
def signText (x : Float) (plus : Bool) : String :=
  if x.isNaN then ""
  else if isNegative x then "-"
  else if plus then "+" else ""

def text (x : Float) : String :=
  signText x false ++ unsignedText x none

end Magnitude

/-- Where a text stands in a field that is wider than it. -/
inductive Alignment where
  | left
  | center
  | right
deriving DecidableEq

/-- How a magnitude is written. -/
structure Style where
  /-- Numbers stand to the right unless told otherwise. -/
  alignment : Alignment := .right
  fill : Char := ' '
  plus : Bool := false
  /-- Zeros between the sign and the digits instead of the fill; the alignment is then ignored. -/
  zeros : Bool := false
  width : Nat := 0
  precision : Option Nat := none
deriving DecidableEq

namespace Style

def repeated (c : Char) (n : Nat) : String :=
  String.ofList (List.replicate n c)

/-- The filling before a text when `free` characters are left over. -/
def leading (a : Alignment) (free : Nat) : Nat :=
  match a with
  | .left => 0
  | .center => free / 2
  | .right => free

/-- The text of a magnitude in a style. -/
def write (s : Style) (x : Float) : String :=
  let sign := Magnitude.signText x s.plus
  let body := Magnitude.unsignedText x s.precision
  let free := s.width - (sign.length + body.length)
  if s.zeros then sign ++ repeated '0' free ++ body
  else
    let before := leading s.alignment free
    repeated s.fill before ++ sign ++ body ++ repeated s.fill (free - before)

end Style

end Metrology
