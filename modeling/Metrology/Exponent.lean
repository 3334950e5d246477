import Metrology.Word

/-!
# Exponents

Powers of ten, powers of base quantities and the powers that units are raised to are integers of
32 bits. Arithmetic on them is exact or refused: `ofInt?` is the only way back from an integer, so
nothing wraps. `toInt` is the view through which every operation is described.
-/

namespace Metrology

/-- An integer of 32 bits, sign included. -/
structure Exponent where
  toInt : Int
  range : Fits32 toInt
deriving DecidableEq

namespace Exponent

@[ext] theorem ext {a b : Exponent} (h : a.toInt = b.toInt) : a = b := by
  cases a
  cases b
  cases h
  rfl

/-- The exponent that an integer denotes, if 32 bits hold it. -/
def ofInt? (n : Int) : Option Exponent :=
  if h : Fits32 n then some ⟨n, h⟩ else none

theorem ofInt?_eq_some_iff {n : Int} {e : Exponent} : ofInt? n = some e ↔ e.toInt = n := by
  unfold ofInt?
  split
  · simp only [Option.some.injEq]
    exact ⟨fun h => h ▸ rfl, fun h => ext h.symm⟩
  · rename_i out
    simp only [reduceCtorEq, false_iff]
    exact fun h => out (h ▸ e.range)

theorem ofInt?_eq_none_iff {n : Int} : ofInt? n = none ↔ ¬Fits32 n := by
  unfold ofInt?
  split <;> simp [*]

theorem ofInt?_toInt (e : Exponent) : ofInt? e.toInt = some e :=
  ofInt?_eq_some_iff.2 rfl

def zero : Exponent := ⟨0, by decide⟩

def one : Exponent := ⟨1, by decide⟩

instance : Inhabited Exponent := ⟨zero⟩

/-- The exact sum, if 32 bits hold it. -/
def add? (a b : Exponent) : Option Exponent :=
  ofInt? (a.toInt + b.toInt)

/-- The exact difference, if 32 bits hold it. -/
def sub? (a b : Exponent) : Option Exponent :=
  ofInt? (a.toInt - b.toInt)

/-- The exact product, if 32 bits hold it. -/
def mul? (a b : Exponent) : Option Exponent :=
  ofInt? (a.toInt * b.toInt)

/-- Decimal digits, after a minus sign when negative. -/
def text (e : Exponent) : String :=
  e.toInt.repr

end Exponent

end Metrology
