import Metrology.Decimal.Layout
import Metrology.Magnitude.Style

/-!
# JSON numbers

A numeral is a sign, a whole part without needless zeros, and optionally a fraction and an exponent.
A numeral that is a whole number and fits a word of 64 bits is read as an integer, any other as the
nearest double; a numeral beyond the doubles cannot be read.
-/

namespace Metrology.Json

/-- A number as it was read. -/
inductive Number where
  | integer (n : Int)
  | real (x : Float)
deriving DecidableEq

/-- The parts of a numeral. -/
structure Numeral where
  negative : Bool
  whole : List Char
  fraction : Option (List Char)
  exponent : Option Int
deriving DecidableEq

namespace Numeral

/-- One digit or more, and what follows them. -/
def digits? (cs : List Char) : Option (List Char × List Char) :=
  match cs.takeWhile Char.isDigit with
  | [] => none
  | ds => some (ds, cs.dropWhile Char.isDigit)

/-- The whole part: a lone zero, or digits of which the first is not zero. -/
def whole? (cs : List Char) : Option (List Char × List Char) := do
  let (ds, rest) ← digits? cs
  if ds.head? = some '0' ∧ 1 < ds.length then none else some (ds, rest)

/-- The fraction: nothing, or a point and digits. -/
def fraction? : List Char → Option (Option (List Char) × List Char)
  | '.' :: cs => (digits? cs).map fun (ds, rest) => (some ds, rest)
  | cs => some (none, cs)

/-- The value of decimal digits. -/
def natOf (ds : List Char) : Nat :=
  Nat.ofDigitChars 10 ds 0

/-- The digits of an exponent after its mark, with or without a sign. -/
def power? : List Char → Option (Int × List Char)
  | '-' :: cs => (digits? cs).map fun (ds, rest) => (-(natOf ds : Int), rest)
  | '+' :: cs => (digits? cs).map fun (ds, rest) => ((natOf ds : Int), rest)
  | cs => (digits? cs).map fun (ds, rest) => ((natOf ds : Int), rest)

/-- The exponent: nothing, or a mark and an integer. -/
def exponent? : List Char → Option (Option Int × List Char)
  | 'e' :: cs => (power? cs).map fun (n, rest) => (some n, rest)
  | 'E' :: cs => (power? cs).map fun (n, rest) => (some n, rest)
  | cs => some (none, cs)

def sign : List Char → Bool × List Char
  | '-' :: cs => (true, cs)
  | cs => (false, cs)

/-- Reads a numeral from the front of a text. -/
def read? (cs : List Char) : Option (Numeral × List Char) := do
  let (negative, cs) := sign cs
  let (whole, cs) ← whole? cs
  let (fraction, cs) ← fraction? cs
  let (exponent, cs) ← exponent? cs
  return ({ negative, whole, fraction, exponent }, cs)

theorem digits?_shrinks {cs ds rest : List Char} (h : digits? cs = some (ds, rest)) :
    rest.length < cs.length := by
  have split := congrArg List.length (List.takeWhile_append_dropWhile (p := Char.isDigit) (l := cs))
  rw [List.length_append] at split
  unfold digits? at h
  split at h
  · cases h
  · rename_i digits
    cases h
    have : 0 < (cs.takeWhile Char.isDigit).length :=
      List.length_pos_iff.2 digits
    omega

theorem whole?_shrinks {cs ds rest : List Char} (h : whole? cs = some (ds, rest)) :
    rest.length < cs.length := by
  simp only [whole?, Option.bind_eq_bind, Option.bind_eq_some_iff] at h
  obtain ⟨⟨_, _⟩, h, short⟩ := h
  split at short
  · cases short
  · cases short
    exact digits?_shrinks h

theorem fraction?_shrinks {cs rest : List Char} {f : Option (List Char)}
    (h : fraction? cs = some (f, rest)) : rest.length ≤ cs.length := by
  unfold fraction? at h
  split at h
  · simp only [Option.map_eq_some_iff] at h
    obtain ⟨⟨_, _⟩, h, ends⟩ := h
    cases ends
    have := digits?_shrinks h
    simp only [List.length_cons]
    omega
  · cases h
    exact Nat.le_refl _

theorem power?_shrinks {cs rest : List Char} {n : Int} (h : power? cs = some (n, rest)) :
    rest.length < cs.length := by
  unfold power? at h
  split at h
  all_goals
    simp only [Option.map_eq_some_iff] at h
    obtain ⟨⟨_, _⟩, h, ends⟩ := h
    cases ends
    have := digits?_shrinks h
    first | exact this | (simp only [List.length_cons]; omega)

theorem exponent?_shrinks {cs rest : List Char} {e : Option Int}
    (h : exponent? cs = some (e, rest)) : rest.length ≤ cs.length := by
  unfold exponent? at h
  split at h
  · simp only [Option.map_eq_some_iff] at h
    obtain ⟨⟨_, _⟩, h, ends⟩ := h
    cases ends
    have := power?_shrinks h
    simp only [List.length_cons]
    omega
  · simp only [Option.map_eq_some_iff] at h
    obtain ⟨⟨_, _⟩, h, ends⟩ := h
    cases ends
    have := power?_shrinks h
    simp only [List.length_cons]
    omega
  · cases h
    exact Nat.le_refl _

theorem sign_shrinks (cs : List Char) : (sign cs).2.length ≤ cs.length := by
  unfold sign
  split
  · exact Nat.le_succ _
  · exact Nat.le_refl _

theorem read?_shrinks {cs rest : List Char} {n : Numeral} (h : read? cs = some (n, rest)) :
    rest.length < cs.length := by
  simp only [read?, Option.bind_eq_bind, Option.bind_eq_some_iff, Option.pure_def] at h
  obtain ⟨⟨_, _⟩, whole, ⟨_, _⟩, fraction, ⟨_, _⟩, exponent, ends⟩ := h
  cases ends
  have := sign_shrinks cs
  have := whole?_shrinks whole
  have := fraction?_shrinks fraction
  have := exponent?_shrinks exponent
  simp only at *
  omega

end Numeral

namespace Number

/-- The double nearest to `digits * 10 ^ exponent`, unless it is beyond the doubles. A value that is
clearly too large or too small is decided by the place of its first digit. -/
def ofDecimal? (digits : Nat) (exponent : Int) : Option Float :=
  let first := exponent + (Nat.toDigits 10 digits).length
  if digits = 0 ∨ first < -330 then some 0
  else if 310 < first then none
  else
    let x := Float.ofScientific digits (exponent < 0) exponent.natAbs
    if x.isInf then none else some x

def signed (negative : Bool) (x : Float) : Float :=
  if negative then -x else x

/-- The number that a numeral denotes. Negative zero is no integer. -/
def ofNumeral? (n : Numeral) : Option Number :=
  match n.fraction, n.exponent with
  | none, none =>
    let size := Numeral.natOf n.whole
    if n.negative then
      if 0 < size ∧ Fits64 (-size) then some (integer (-size))
      else (ofDecimal? size 0).map fun x => real (-x)
    else if size < 18446744073709551616 then some (integer size)
    else (ofDecimal? size 0).map real
  | fraction, exponent =>
    let places := fraction.getD []
    let size := Numeral.natOf (n.whole ++ places)
    (ofDecimal? size (exponent.getD 0 - places.length)).map fun x => real (signed n.negative x)

/-- The double nearest to a number. -/
def toFloat : Number → Float
  | integer n => Float.ofInt n
  | real x => x

/-- Numbers are written positionally from `0.00001` up to sixteen digits before the point, and with
a signed exponent otherwise; of two shortest decimals at the same distance the even one is taken. -/
def layout : Decimal.Layout :=
  { tie := .toEven, positional := some (-5, 15), pointZero := true, plusExponent := true }

/-- The text of a number; there is none for infinities and NaN, which are written as `null`. -/
def text : Number → String
  | integer n => n.repr
  | real x =>
    if x.isFinite then Magnitude.signText x false ++ layout.writeFinite x else "null"

end Number

end Metrology.Json
