import Metrology.Identity

/-!
# Refusals

Why an operation on quantities whose unit is known only as a value was refused, and the notices that
are recorded on the way. Both are data; `message` and `text` give their wording.
-/

namespace Metrology

/-- Why an operation was refused. -/
inductive Refusal where
  /-- A dimension was given with the wrong number of exponents. -/
  | shapeMismatch (expected found : Nat)
  /-- Two units had to be the same and are not. -/
  | unitMismatch (left right : Identity)
  /-- A conversion would have changed the dimension. -/
  | dimensionMismatch (source target : Dimension)
  /-- A composed identity does not fit. -/
  | overflow
  /-- A scale was given with a zero numerator or denominator. -/
  | zeroScale (num den : Int64)
deriving DecidableEq

namespace Refusal

def message : Refusal → String
  | shapeMismatch expected found =>
    "dimension vector must have " ++ expected.repr ++ " components, found " ++ found.repr
  | unitMismatch left right => "unit mismatch: " ++ left.text ++ " is not " ++ right.text
  | dimensionMismatch source target =>
    "cannot convert dimension " ++ source.text ++ " into " ++ target.text
  | overflow => "unit identity overflow"
  | zeroScale num den =>
    "rational scale " ++ num.toInt.repr ++ "/" ++ den.toInt.repr ++ " is not a nonzero fraction"

end Refusal

namespace Dimension

/-- The dimension with the given exponents, which must be seven. -/
def ofExponents (exponents : List Exponent) : Except Refusal Dimension :=
  match PerBase.ofList? exponents with
  | some table => .ok ⟨table⟩
  | none => .error (.shapeMismatch 7 exponents.length)

end Dimension

/-- The operations that ask for one unit on both sides. -/
inductive Comparison where
  | addition
  | subtraction
  | comparison
deriving DecidableEq

def Comparison.name : Comparison → String
  | addition => "addition"
  | subtraction => "subtraction"
  | comparison => "comparison"

/-- What is recorded when something is refused. -/
inductive Notice where
  | zeroScale (num den : Int64)
  | unlikeUnits (operation : Comparison) (left right : Identity)
  | unlikeDimensions (source target : Dimension)
  | unlikeView (found expected : Identity)
  | foreignSymbol (expected found : String)
deriving DecidableEq

def Notice.text : Notice → String
  | zeroScale num den =>
    "rejected scale " ++ num.toInt.repr ++ "/" ++ den.toInt.repr ++ ": scales must be nonzero"
  | unlikeUnits operation left right =>
    "rejected " ++ operation.name ++ ": unit " ++ left.text ++ " does not match " ++ right.text
  | unlikeDimensions source target =>
    "rejected conversion: dimension " ++ source.text ++ " cannot become " ++ target.text
  | unlikeView found expected =>
    "rejected typed view: unit " ++ found.text ++ " does not match " ++ expected.text
  | foreignSymbol expected found =>
    "rejected quantity: expected unit '" ++ expected ++ "', found '" ++ found ++ "'"

/-- The outcome of an operation and the notices recorded by it, in order. -/
structure Attempt (ε α : Type) where
  result : Except ε α
  notices : List Notice

namespace Attempt

variable {ε α β : Type}

def accept (a : α) : Attempt ε α := ⟨.ok a, []⟩

/-- Refuses without a notice. -/
def refuse (e : ε) : Attempt ε α := ⟨.error e, []⟩

/-- Refuses and records why. -/
def reject (notice : Notice) (e : ε) : Attempt ε α := ⟨.error e, [notice]⟩

/-- An outcome that records nothing. -/
def ofExcept (r : Except ε α) : Attempt ε α := ⟨r, []⟩

/-- Goes on with an accepted value; notices follow one another. -/
def andThen (x : Attempt ε α) (f : α → Attempt ε β) : Attempt ε β :=
  match x.result with
  | .ok a => ⟨(f a).result, x.notices ++ (f a).notices⟩
  | .error e => ⟨.error e, x.notices⟩

/-- Renames the causes of refusal. -/
def mapError {δ : Type} (f : ε → δ) (x : Attempt ε α) : Attempt δ α :=
  ⟨x.result.mapError f, x.notices⟩

def map (f : α → β) (x : Attempt ε α) : Attempt ε β :=
  ⟨x.result.map f, x.notices⟩

end Attempt

end Metrology
