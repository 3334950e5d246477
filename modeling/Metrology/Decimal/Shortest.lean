import Metrology.Decimal.Binary

/-!
# Shortest decimals

Among the decimals that round to a given double, those with the fewest digits are chosen, and of
these the nearest. The grids `10 ^ k` are tried from the coarsest that can hold a first digit
downwards. Only the two neighbours of the value on a grid can be the answer there: if any point of
the grid rounds to the value, so does one of them.
-/

namespace Metrology.Decimal

/-- The decimal `digits * 10 ^ exponent`. -/
structure Scaled where
  digits : Nat
  exponent : Int
deriving DecidableEq

/-- Which of two decimals at the same distance is taken. -/
inductive Tie where
  | upward
  | toEven
deriving DecidableEq

/-- The order of `a * 10 ^ i` and `n * 2 ^ j`. -/
def compareScaled (a : Nat) (i : Int) (n : Nat) (j : Int) : Ordering :=
  compare (a * tens i.toNat * twos (-j).toNat) (n * twos j.toNat * tens (-i).toNat)

namespace Binary

/-- Whether a decimal rounds to the value: it lies between the halfway points to both neighbours,
which belong to the value if its mantissa is even. -/
def readsBack (b : Binary) (d : Scaled) : Bool :=
  let low := if b.narrowBelow then 4 * b.mantissa - 1 else 4 * b.mantissa - 2
  let high := 4 * b.mantissa + 2
  let even := b.mantissa % 2 == 0
  let below := compareScaled d.digits d.exponent low (b.exponent - 2)
  let above := compareScaled d.digits d.exponent high (b.exponent - 2)
  (below == .gt || (even && below == .eq)) && (above == .lt || (even && above == .eq))

/-- The greatest `k` with `10 ^ k` at most the value, for a value other than zero. -/
def decimalExponent (b : Binary) : Int :=
  let (num, den) := b.fraction
  if den ≤ num then ((Nat.toDigits 10 (num / den)).length : Int) - 1
  else -((Nat.toDigits 10 ((den - 1) / num)).length : Int)

/-- The greatest point of a grid that does not exceed the value. -/
def below (b : Binary) (k : Int) : Nat :=
  let (num, den) := b.fraction
  num * tens (-k).toNat / (den * tens k.toNat)

/-- The nearer of two neighbouring grid points; the tie rule decides at the same distance. -/
def nearer (b : Binary) (tie : Tie) (k : Int) (lower : Nat) : Nat :=
  match compareScaled (2 * lower + 1) k b.mantissa (b.exponent + 1) with
  | .gt => lower
  | .lt => lower + 1
  | .eq => match tie with
    | .upward => lower + 1
    | .toEven => lower + lower % 2

/-- The neighbour of the value on a grid that rounds to it, if there is one. -/
def onGrid? (b : Binary) (tie : Tie) (k : Int) : Option Scaled :=
  let lower := b.below k
  match b.readsBack ⟨lower, k⟩, b.readsBack ⟨lower + 1, k⟩ with
  | true, true => some ⟨b.nearer tie k lower, k⟩
  | true, false => some ⟨lower, k⟩
  | false, true => some ⟨lower + 1, k⟩
  | false, false => none

/-- Tries finer and finer grids; the last resort is the exact value, which is on the grid
`10 ^ exponent`. -/
def search (b : Binary) (tie : Tie) : Nat → Int → Scaled
  | 0, _ => ⟨b.below (min 0 b.exponent), min 0 b.exponent⟩
  | n + 1, k => (b.onGrid? tie k).getD (search b tie n (k - 1))

/-- The shortest decimal that rounds to the value. -/
def shortest (b : Binary) (tie : Tie) : Scaled :=
  if b.mantissa = 0 then ⟨0, 0⟩ else b.search tie 17 b.decimalExponent

end Binary

end Metrology.Decimal
