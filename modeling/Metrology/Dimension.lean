import Metrology.Exponent
import Metrology.Fault

/-!
# Dimensions

Seven base quantities, tables with one entry for each of them, and dimensions: tables of exponents.
A table is determined by its look-up `get` (`PerBase.ext_get`), and an entrywise operation that can
be refused succeeds exactly when it does so at every entry (`PerBase.ofFn?_eq_some_iff`).
-/

namespace Metrology

/-- The seven base quantities, in their conventional order. -/
inductive BaseQuantity where
  | length
  | mass
  | time
  | current
  | temperature
  | amount
  | luminousIntensity
deriving DecidableEq

namespace BaseQuantity

def all : List BaseQuantity :=
  [length, mass, time, current, temperature, amount, luminousIntensity]

theorem mem_all (q : BaseQuantity) : q ∈ all := by
  cases q <;> decide

/-- The position in the conventional order, from zero. -/
def index : BaseQuantity → Nat
  | length => 0
  | mass => 1
  | time => 2
  | current => 3
  | temperature => 4
  | amount => 5
  | luminousIntensity => 6

theorem index_injective {p q : BaseQuantity} (h : p.index = q.index) : p = q := by
  cases p <;> cases q <;> first | rfl | exact absurd h (by decide)

def symbol : BaseQuantity → String
  | length => "L"
  | mass => "M"
  | time => "T"
  | current => "I"
  | temperature => "Θ"
  | amount => "N"
  | luminousIntensity => "J"

def name : BaseQuantity → String
  | length => "Length"
  | mass => "Mass"
  | time => "Time"
  | current => "Current"
  | temperature => "Temperature"
  | amount => "Amount"
  | luminousIntensity => "LuminousIntensity"

end BaseQuantity

/-- One entry for each base quantity. -/
structure PerBase (α : Type) where
  length : α
  mass : α
  time : α
  current : α
  temperature : α
  amount : α
  luminousIntensity : α
deriving DecidableEq

namespace PerBase

variable {α β : Type}

def get (t : PerBase α) : BaseQuantity → α
  | .length => t.length
  | .mass => t.mass
  | .time => t.time
  | .current => t.current
  | .temperature => t.temperature
  | .amount => t.amount
  | .luminousIntensity => t.luminousIntensity

/-- The table of a function. -/
def ofFn (f : BaseQuantity → α) : PerBase α :=
  ⟨f .length, f .mass, f .time, f .current, f .temperature, f .amount, f .luminousIntensity⟩

@[simp] theorem get_ofFn (f : BaseQuantity → α) (q : BaseQuantity) : (ofFn f).get q = f q := by
  cases q <;> rfl

theorem ext_get {s t : PerBase α} (h : ∀ q, s.get q = t.get q) : s = t := by
  cases s
  cases t
  have length := h .length
  have mass := h .mass
  have time := h .time
  have current := h .current
  have temperature := h .temperature
  have amount := h .amount
  have luminousIntensity := h .luminousIntensity
  simp only [get] at *
  simp only [*]

/-- The table of a function that may refuse an entry. -/
def ofFn? (f : BaseQuantity → Option α) : Option (PerBase α) := do
  let length ← f .length
  let mass ← f .mass
  let time ← f .time
  let current ← f .current
  let temperature ← f .temperature
  let amount ← f .amount
  let luminousIntensity ← f .luminousIntensity
  return { length, mass, time, current, temperature, amount, luminousIntensity }

theorem ofFn?_eq_some_iff {f : BaseQuantity → Option α} {t : PerBase α} :
    ofFn? f = some t ↔ ∀ q, f q = some (t.get q) := by
  constructor
  · intro h q
    simp only [ofFn?, Option.bind_eq_bind, Option.bind_eq_some_iff, Option.pure_def,
      Option.some.injEq] at h
    obtain ⟨_, h₁, _, h₂, _, h₃, _, h₄, _, h₅, _, h₆, _, h₇, rfl⟩ := h
    cases q <;> assumption
  · intro h
    simp only [ofFn?, h]
    rfl

/-- The entries in the conventional order. -/
def toList (t : PerBase α) : List α :=
  BaseQuantity.all.map t.get

/-- The table with the given entries, if there are exactly seven. -/
def ofList? : List α → Option (PerBase α)
  | [a, b, c, d, e, f, g] => some ⟨a, b, c, d, e, f, g⟩
  | _ => none

theorem ofList?_toList (t : PerBase α) : ofList? t.toList = some t := rfl

theorem toList_of_ofList? {l : List α} {t : PerBase α} (h : ofList? l = some t) : t.toList = l := by
  unfold ofList? at h
  split at h
  · cases h
    rfl
  · cases h

theorem ofList?_isSome_iff {l : List α} : (ofList? l).isSome ↔ l.length = 7 := by
  unfold ofList?
  split
  · simp
  · rename_i other
    simp only [Option.isSome_none, Bool.false_eq_true, false_iff]
    intro seven
    match l, seven with
    | [a, b, c, d, e, f, g], _ => exact other a b c d e f g rfl

end PerBase

/-- The exponent of every base quantity. -/
structure Dimension where
  exponents : PerBase Exponent
deriving DecidableEq

namespace Dimension

def exponent (d : Dimension) (q : BaseQuantity) : Exponent :=
  d.exponents.get q

@[ext] theorem ext {a b : Dimension} (h : ∀ q, a.exponent q = b.exponent q) : a = b := by
  cases a
  cases b
  exact congrArg mk (PerBase.ext_get h)

def dimensionless : Dimension :=
  ⟨.ofFn fun _ => .zero⟩

instance : Inhabited Dimension := ⟨dimensionless⟩

/-- The dimension of one base quantity. -/
def of (base : BaseQuantity) : Dimension :=
  ⟨.ofFn fun q => if q = base then .one else .zero⟩

def isDimensionless (d : Dimension) : Bool := d == dimensionless

/-- The dimension of a product: exponents add. -/
def mul? (a b : Dimension) : Option Dimension :=
  (PerBase.ofFn? fun q => (a.exponent q).add? (b.exponent q)).map mk

/-- The dimension of a quotient: exponents subtract. -/
def div? (a b : Dimension) : Option Dimension :=
  (PerBase.ofFn? fun q => (a.exponent q).sub? (b.exponent q)).map mk

/-- The dimension of a power: every exponent is multiplied. -/
def pow? (d : Dimension) (n : Exponent) : Option Dimension :=
  (PerBase.ofFn? fun q => (d.exponent q).mul? n).map mk

def mul (a b : Dimension) : Except Fault Dimension :=
  Fault.dimensionProduct.force (a.mul? b)

def div (a b : Dimension) : Except Fault Dimension :=
  Fault.dimensionQuotient.force (a.div? b)

def pow (d : Dimension) (n : Exponent) : Except Fault Dimension :=
  Fault.dimensionPower.force (d.pow? n)

/-- One base quantity to an exponent; the exponent one is not written. -/
def factorText (q : BaseQuantity) (e : Exponent) : String :=
  if e = .one then q.symbol else q.symbol ++ "^" ++ e.text

/-- The factors whose exponent is not zero, joined by a dot; a lone `1` if there are none. -/
def text (d : Dimension) : String :=
  if d.isDimensionless then "1"
  else "·".intercalate <| BaseQuantity.all.filterMap fun q =>
    if d.exponent q = .zero then none else some (factorText q (d.exponent q))

end Dimension

end Metrology
