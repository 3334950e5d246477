import Metrology.CheckedQuantity

/-!
# Outlines

An outline shows the structure of a value: named records, tuples and lists down to leaves. It is
written on one line, or with every entry on a line of its own, four spaces deeper than its parent
and ended by a comma.
-/

namespace Metrology

/-- The structure of a value. -/
inductive Outline where
  | leaf (text : String)
  | record (name : String) (fields : List (String × Outline))
  | tuple (name : String) (items : List Outline)
  | list (items : List Outline)

namespace Outline

mutual

/-- The outline on one line. -/
def inline : Outline → String
  | leaf text => text
  | record name fields => name ++ " \x7b " ++ ", ".intercalate (inlineFields fields) ++ " \x7d"
  | tuple name items => name ++ "(" ++ ", ".intercalate (inlineItems items) ++ ")"
  | list items => "[" ++ ", ".intercalate (inlineItems items) ++ "]"

def inlineFields : List (String × Outline) → List String
  | [] => []
  | (name, o) :: rest => (name ++ ": " ++ o.inline) :: inlineFields rest

def inlineItems : List Outline → List String
  | [] => []
  | o :: rest => o.inline :: inlineItems rest

end

/-- Puts a label before the first line and a comma after the last, and moves all lines in. -/
def entry (label : String) : List String → List String
  | [] => []
  | [line] => ["    " ++ label ++ line ++ ","]
  | line :: rest => ("    " ++ label ++ line) :: (entry "" rest)

mutual

/-- The lines of an outline that is spread out. -/
def lines : Outline → List String
  | leaf text => [text]
  | record name fields => (name ++ " \x7b") :: fieldLines fields ++ ["\x7d"]
  | tuple name items => (name ++ "(") :: itemLines items ++ [")"]
  | list items => "[" :: itemLines items ++ ["]"]

def fieldLines : List (String × Outline) → List String
  | [] => []
  | (name, o) :: rest => entry (name ++ ": ") o.lines ++ fieldLines rest

def itemLines : List Outline → List String
  | [] => []
  | o :: rest => entry "" o.lines ++ itemLines rest

end

/-- The outline with one entry to a line. -/
def spread (o : Outline) : String :=
  "\n".intercalate o.lines

/-- In outlines, magnitudes have a point and are written positionally from `0.0001` up to sixteen
digits before the point. -/
def layout : Decimal.Layout :=
  { tie := .upward, positional := some (-4, 15), pointZero := true, plusExponent := false }

def ofFloat (x : Float) : Outline :=
  leaf <| Magnitude.signText x false ++
    if x.isFinite then layout.writeFinite x else Magnitude.unsignedText x none

def ofInt (n : Int) : Outline :=
  leaf n.repr

def ofBase (q : BaseQuantity) : Outline :=
  leaf q.name

def ofRatio (r : Ratio) : Outline :=
  record "Ratio" [("num", ofInt r.num), ("den", ofInt r.den)]

def ofDimension (d : Dimension) : Outline :=
  tuple "DimensionVector" [list (d.exponents.toList.map fun e => ofInt e.toInt)]

def ofIdentity (i : Identity) : Outline :=
  record "Identity" [
    ("ratio", ofRatio i.ratio),
    ("exponent", ofInt i.exponent.toInt),
    ("dimension", ofDimension i.dimension)]

def ofRefusal : Refusal → Outline
  | .shapeMismatch expected found =>
    record "ShapeMismatch" [("expected", ofInt expected), ("found", ofInt found)]
  | .unitMismatch left right =>
    record "UnitMismatch" [("left", ofIdentity left), ("right", ofIdentity right)]
  | .dimensionMismatch source target =>
    record "DimensionMismatch" [("from", ofDimension source), ("to", ofDimension target)]
  | .overflow => leaf "ScaleOverflow"
  | .zeroScale num den =>
    record "ZeroScale" [("num", ofInt num.toInt), ("den", ofInt den.toInt)]

def ofChecked (q : CheckedQuantity) : Outline :=
  record "DynQuantity" [("value", ofFloat q.magnitude), ("identity", ofIdentity q.identity)]

def ofOutcome : Except Refusal CheckedQuantity → Outline
  | .ok q => tuple "Ok" [ofChecked q]
  | .error r => tuple "Err" [ofRefusal r]

end Outline

end Metrology
