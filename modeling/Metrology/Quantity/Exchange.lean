import Metrology.Json.Token
import Metrology.Json.Value
import Metrology.Quantity
import Metrology.Refusal

/-!
# Exchange of quantities

A quantity is exchanged as a bare number, or as an object with its number under `value` and the full
symbol of its unit under `unit`. Reading the object goes through its entries in order: a key is
judged before its value, an entry before the next one, and only a complete object is asked whether
it has a number and whether the unit is the expected one. `Slots.readEntries` says this for a list
of entries, `readRecord` for a text, where the first problem that is met wins, whether it lies in
the data or in the text.
-/

namespace Metrology.Exchange

open Json (Found Token Value)

/-- The fields of an exchanged quantity. -/
inductive Field where
  | value
  | unit
deriving DecidableEq

def Field.name : Field → String
  | value => "value"
  | unit => "unit"

/-- What is expected where a value stands. -/
inductive Expectation where
  | number
  | text
  | record
deriving DecidableEq

def Expectation.name : Expectation → String
  | number => "f64"
  | text => "a string"
  | record => "struct Quantity with value and unit fields"

/-- What is wrong with well-formed data. -/
inductive DataFault where
  | wrongType (found : Found) (expected : Expectation)
  | unknownField (name : String)
  | duplicateField (field : Field)
  | missingValue
  | foreignUnit (expected found : String)
deriving DecidableEq

def DataFault.message : DataFault → String
  | wrongType found expected => "invalid type: " ++ found.text ++ ", expected " ++ expected.name
  | unknownField name => "unknown field `" ++ name ++ "`, expected `value` or `unit`"
  | duplicateField field => "duplicate field `" ++ field.name ++ "`"
  | missingValue => "missing field `value`"
  | foreignUnit expected found =>
    "unit mismatch: expected '" ++ expected ++ "', found '" ++ found ++ "'"

/-- Why nothing could be read. -/
inductive ReadFault where
  /-- The text is not JSON. -/
  | malformed
  | data (fault : DataFault)
deriving DecidableEq

/-- The number that was found, if it is one. -/
def expectNumber : Found → Except DataFault Float
  | .number n => .ok n.toFloat
  | found => .error (.wrongType found .number)

/-- The string that was found, if it is one. -/
def expectText : Found → Except DataFault String
  | .string s => .ok s
  | found => .error (.wrongType found .text)

/-- The fields read so far. -/
structure Slots where
  value : Option Float := none
  unit : Option String := none

namespace Slots

/-- Accepts a key: one of the two names, not seen before. -/
def openField (s : Slots) (name : String) : Except DataFault Field :=
  if name = Field.value.name then
    if s.value.isSome then .error (.duplicateField .value) else .ok .value
  else if name = Field.unit.name then
    if s.unit.isSome then .error (.duplicateField .unit) else .ok .unit
  else .error (.unknownField name)

/-- Stores what was found under an accepted key, if it has the right type. -/
def fill (s : Slots) (field : Field) (found : Found) : Except DataFault Slots :=
  match field with
  | .value => (expectNumber found).map fun x => { s with value := some x }
  | .unit => (expectText found).map fun t => { s with unit := some t }

/-- The magnitude of a complete object; a unit may be missing, but no other unit may be named. -/
def finish (s : Slots) (symbol : String) : Attempt DataFault Float :=
  match s.value, s.unit with
  | none, _ => .refuse .missingValue
  | some x, none => .accept x
  | some x, some found =>
    if found = symbol then .accept x
    else .reject (.foreignSymbol symbol found) (.foreignUnit symbol found)

/-- Goes through entries in order. -/
def readEntries (s : Slots) : List (String × Found) → Except DataFault Slots
  | [] => .ok s
  | (name, found) :: rest =>
    match s.openField name with
    | .error fault => .error fault
    | .ok field =>
      match s.fill field found with
      | .error fault => .error fault
      | .ok next => next.readEntries rest

end Slots

/-- The magnitude of an object given by its entries. -/
def ofEntries (symbol : String) (entries : List (String × Found)) : Attempt DataFault Float :=
  (Attempt.ofExcept (Slots.readEntries {} entries)).andThen fun slots => slots.finish symbol

/-- What a token shows of the value that it begins. -/
def foundAt? : Token → Option Found
  | .null => some .null
  | .bool b => some (.bool b)
  | .number n => some (.number n)
  | .string s => some (.string s)
  | .openArray => some .sequence
  | .openObject => some .map
  | _ => none

/-- Goes through the members of an object from the first key on, up to its end. A comma stands
between two members. -/
def readMembers (s : Slots) (name : String) (tokens : List Token) :
    Except ReadFault (Slots × List Token) :=
  match s.openField name with
  | .error fault => .error (.data fault)
  | .ok field =>
    match tokens with
    | .colon :: t :: rest =>
      match foundAt? t with
      | none => .error .malformed
      | some found =>
        match s.fill field found with
        | .error fault => .error (.data fault)
        | .ok next =>
          match rest with
          | .closeObject :: rest => .ok (next, rest)
          | .comma :: .string name :: rest => readMembers next name rest
          | _ => .error .malformed
    | _ => .error .malformed

/-- Reads the inside of an object and its closing brace. -/
def readObject : List Token → Except ReadFault (Slots × List Token)
  | .closeObject :: rest => .ok ({}, rest)
  | .string name :: rest => readMembers {} name rest
  | _ => .error .malformed

/-- Accepts an outcome only if no token is left. -/
def atEnd {α : Type} (rest : List Token) (x : Attempt ReadFault α) : Attempt ReadFault α :=
  x.andThen fun a => if rest.isEmpty then .accept a else .refuse .malformed

/-- Reads a bare number. -/
def readNumber : List Token → Attempt ReadFault Float
  | [] => .refuse .malformed
  | t :: rest =>
    match foundAt? t with
    | none => .refuse .malformed
    | some found => atEnd rest (.ofExcept ((expectNumber found).mapError .data))

/-- Reads an object with a number and, unless it is left out, the expected unit. -/
def readRecord (symbol : String) : List Token → Attempt ReadFault Float
  | [] => .refuse .malformed
  | .openObject :: tokens =>
    (Attempt.ofExcept (readObject tokens)).andThen fun (slots, rest) =>
      atEnd rest ((slots.finish symbol).mapError .data)
  | t :: _ =>
    match foundAt? t with
    | none => .refuse .malformed
    | some found => .refuse (.data (.wrongType found .record))

end Metrology.Exchange

namespace Metrology.Quantity

open Metrology.Exchange

variable {u : UnitExpr}

/-- The bare number of a quantity. -/
def toNumberJson (q : Quantity u) : Json.Value :=
  .ofFloat q.magnitude

/-- The number and the full symbol of a quantity. -/
def toRecordJson (q : Quantity u) : Json.Value :=
  .object [(Field.value.name, .ofFloat q.magnitude), (Field.unit.name, .string u.symbol)]

/-- Reads a quantity from the text of a bare number. -/
def ofNumberText (text : String) : Attempt ReadFault (Quantity u) :=
  (readNumber (Json.Token.ofText text.toList)).map Quantity.mk

/-- Reads a quantity from the text of an object. -/
def ofRecordText (text : String) : Attempt ReadFault (Quantity u) :=
  (readRecord u.symbol (Json.Token.ofText text.toList)).map Quantity.mk

end Metrology.Quantity
