import Metrology.Json.Number
import Metrology.Json.Text
import Metrology.Text.Quoted

/-!
# JSON values

A value, its text without blanks, and what a reader sees of a value before it looks inside: of a
scalar everything, of an array or an object only its kind.
-/

namespace Metrology.Json

/-- A JSON value; the fields of an object keep their order. -/
inductive Value where
  | null
  | bool (b : Bool)
  | number (n : Number)
  | string (s : String)
  | array (items : List Value)
  | object (fields : List (String × Value))

/-- What stands where a value is expected. -/
inductive Found where
  | null
  | bool (b : Bool)
  | number (n : Number)
  | string (s : String)
  | sequence
  | map
deriving DecidableEq

namespace Found

/-- How a message names what was found. -/
def text : Found → String
  | null => "null"
  | bool b => "boolean `" ++ (if b then "true" else "false") ++ "`"
  | number (.integer n) => "integer `" ++ n.repr ++ "`"
  | number (.real x) => "floating point `" ++ (Number.real x).text ++ "`"
  | string s => "string " ++ Text.quote s
  | sequence => "sequence"
  | map => "map"

end Found

namespace Value

/-- The number of a magnitude; infinities and NaN have none and become `null`. -/
def ofFloat (x : Float) : Value :=
  if x.isFinite then number (.real x) else null

def found : Value → Found
  | null => .null
  | bool b => .bool b
  | number n => .number n
  | string s => .string s
  | array _ => .sequence
  | object _ => .map

mutual

/-- The text of a value. -/
def text : Value → String
  | null => "null"
  | bool b => if b then "true" else "false"
  | number n => n.text
  | string s => writeString s
  | array items => "[" ++ ",".intercalate (itemTexts items) ++ "]"
  | object fields => "\x7b" ++ ",".intercalate (fieldTexts fields) ++ "\x7d"

def itemTexts : List Value → List String
  | [] => []
  | v :: rest => v.text :: itemTexts rest

def fieldTexts : List (String × Value) → List String
  | [] => []
  | (name, v) :: rest => (writeString name ++ ":" ++ v.text) :: fieldTexts rest

end

end Value

end Metrology.Json
