import Metrology.Declaration.Extent

/-!
# Unit declarations

A unit is declared by the entries of one attribute: `key = value`, any number of times, each followed
by a comma or not. A key is judged before its value, a repeated key after it; only when all entries
have been read is anything missing reported, the symbol before the dimension.
-/

namespace Metrology.Declaration

/-- A scale as it was declared: a fraction, or a whole number. -/
inductive Scale where
  | fraction (num den : List Token)
  | whole (num : List Token)
deriving DecidableEq

/-- A value under its key. -/
inductive Value where
  | symbol (source : Token)
  | dimension (path : List Token)
  | ratio (scale : Scale)
  | exponent (expression : List Token)
deriving DecidableEq

def Value.key : Value → Key
  | symbol _ => .symbol
  | dimension _ => .dimension
  | ratio _ => .ratio
  | exponent _ => .exponent

/-- The entries read so far. -/
structure Slots where
  symbol : Option Token := none
  dimension : Option (List Token) := none
  ratio : Option Scale := none
  exponent : Option (List Token) := none
deriving DecidableEq

namespace Slots

def has (s : Slots) : Key → Bool
  | .symbol => s.symbol.isSome
  | .dimension => s.dimension.isSome
  | .ratio => s.ratio.isSome
  | .exponent => s.exponent.isSome

/-- Stores a value unless its key has one already. -/
def put (s : Slots) (v : Value) : Except Fault Slots :=
  if s.has v.key then .error (.duplicateKey v.key)
  else .ok <| match v with
    | .symbol source => { s with symbol := some source }
    | .dimension path => { s with dimension := some path }
    | .ratio scale => { s with ratio := some scale }
    | .exponent expression => { s with exponent := some expression }

end Slots

/-- A complete declaration. -/
structure UnitDeclaration where
  symbol : Token
  dimension : List Token
  ratio : Option Scale
  exponent : Option (List Token)
deriving DecidableEq

/-- A declaration needs a symbol and a dimension. -/
def Slots.finish (s : Slots) : Except Fault UnitDeclaration :=
  match s.symbol, s.dimension with
  | none, _ => .error (.missingKey .symbol)
  | some _, none => .error (.missingKey .dimension)
  | some symbol, some dimension =>
    .ok { symbol, dimension, ratio := s.ratio, exponent := s.exponent }

/-- The tokens before the last one, if that one closes the bracket around `depth` open ones and no
earlier token does. -/
def upToLast? (depth : Nat) : List Token → Option (List Token)
  | [] => none
  | [.closing _] => if depth = 0 then some [] else none
  | t :: rest =>
    match t with
    | .opening _ => (upToLast? (depth + 1) rest).map (t :: ·)
    | .closing _ => if depth = 0 then none else (upToLast? (depth - 1) rest).map (t :: ·)
    | _ => (upToLast? depth rest).map (t :: ·)

/-- The inside of parentheses that hold all of an expression. -/
def enclosed? : List Token → Option (List Token)
  | .opening .round :: rest => upToLast? 0 rest
  | _ => none

theorem length_lt_of_expression {tokens kept rest : List Token} {t : Token}
    (h : expression tokens = .ok (kept, t :: rest)) : rest.length < tokens.length := by
  have lengths := congrArg List.length (expression_append h)
  rw [List.length_append, List.length_cons] at lengths
  omega

/-- The expressions of a list with commas between them. The commas in angle brackets are no
separators, so each expression is read to its end. -/
def elements (inside : List Token) : List (List Token) :=
  match read : expression inside with
  | .ok (first, .mark ',' _ :: rest) =>
    have := length_lt_of_expression read
    first :: elements rest
  | .ok (first, _) => [first]
  | .error _ => []
termination_by inside.length
decreasing_by
  assumption

/-- The scale that an expression declares, given what follows it. Two elements in parentheses are a
fraction; a lone expression in parentheses, or any other one, is a whole number. All other lists are
refused. -/
def scaleOf (value rest : List Token) : Except Fault Scale :=
  match enclosed? value with
  | none => .ok (.whole value)
  | some inside =>
    match elements inside with
    | [num, den] => .ok (.fraction num den)
    | [lone] => if lone = inside then .ok (.whole lone) else .error (.ratioShape rest.isEmpty)
    | _ => .error (.ratioShape rest.isEmpty)

/-- Reads the value of a key. -/
def readValue (key : Key) (tokens : List Token) : Except Fault (Value × List Token) :=
  match key with
  | .symbol =>
    match tokens with
    | .text source :: rest => .ok (.symbol (.text source), rest)
    | _ => .error (.expected .string tokens.isEmpty)
  | .dimension => (typeExpression tokens).map fun (path, rest) => (.dimension path, rest)
  | .exponent => (expression tokens).map fun (e, rest) => (.exponent e, rest)
  | .ratio => do
    let (e, rest) ← expression tokens
    let scale ← scaleOf e rest
    return (.ratio scale, rest)

/-- Skips a comma, if there is one. -/
def skipComma : List Token → List Token
  | .mark ',' _ :: rest => rest
  | tokens => tokens

theorem skipComma_length_le (tokens : List Token) :
    (skipComma tokens).length ≤ tokens.length := by
  unfold skipComma
  split
  · exact Nat.le_succ _
  · exact Nat.le_refl _

/-- A value that is read belongs to the key, and its tokens and what is left are together what was
given. -/
theorem readValue_eq_ok {key : Key} {tokens rest : List Token} {v : Value}
    (h : readValue key tokens = .ok (v, rest)) :
    v.key = key ∧ ∃ source, source ++ rest = tokens := by
  cases key with
  | symbol =>
    simp only [readValue] at h
    split at h
    · next source _ =>
      cases h
      exact ⟨rfl, [.text source], rfl⟩
    · cases h
  | dimension =>
    simp only [readValue] at h
    cases scanned : typeExpression tokens with
    | error => rw [scanned] at h; cases h
    | ok p => rw [scanned] at h; cases h; exact ⟨rfl, p.1, typeExpression_append scanned⟩
  | exponent =>
    simp only [readValue] at h
    cases scanned : expression tokens with
    | error => rw [scanned] at h; cases h
    | ok p => rw [scanned] at h; cases h; exact ⟨rfl, p.1, expression_append scanned⟩
  | ratio =>
    simp only [readValue] at h
    cases scanned : expression tokens with
    | error => rw [scanned] at h; cases h
    | ok p =>
      rw [scanned] at h
      simp only [bind, Except.bind] at h
      split at h
      · cases h
      · cases h
        exact ⟨rfl, p.1, expression_append scanned⟩

theorem readValue_length_le {key : Key} {tokens rest : List Token} {v : Value}
    (h : readValue key tokens = .ok (v, rest)) : rest.length ≤ tokens.length := by
  obtain ⟨_, source, same⟩ := readValue_eq_ok h
  rw [← same, List.length_append]
  exact Nat.le_add_left _ _

/-- Reads entries up to the end of the attribute. -/
def readEntries (s : Slots) (tokens : List Token) : Except Fault Slots :=
  match tokens with
  | [] => .ok s
  | .word name :: afterName =>
    if isReserved name then .error (.reservedWord name)
    else
      match afterName with
      | .mark '=' _ :: start =>
        match Key.ofName? name with
        | none => .error (.unknownKey name)
        | some key =>
          match read : readValue key start with
          | .error fault => .error fault
          | .ok (v, rest) =>
            match s.put v with
            | .error fault => .error fault
            | .ok next =>
              have := readValue_length_le read
              have := skipComma_length_le rest
              readEntries next (skipComma rest)
      | _ => .error (.expectedMark "=")
  | _ :: _ => .error (.expected .identifier false)
termination_by tokens.length
decreasing_by
  simp only [List.length_cons]
  omega

/-- Reads a declaration from the inside of an attribute. -/
def ofArguments (tokens : List Token) : Except Fault UnitDeclaration := do
  let slots ← readEntries {} tokens
  slots.finish

/-- What an attribute gives after its path. -/
inductive Arguments where
  | none
  /-- An equals sign and a value. -/
  | assigned
  /-- The inside of brackets of any kind. -/
  | list (tokens : List Token)
deriving DecidableEq

/-- The arguments of an attribute whose path is the lone word `unit`. -/
def unitArguments? : List Token → Option Arguments
  | [.word "unit"] => some .none
  | .word "unit" :: .mark '=' _ :: _ => some .assigned
  | .word "unit" :: .opening _ :: rest => some (.list rest.dropLast)
  | _ => none

/-- Reads the declaration of a unit from its attributes. The first attribute for units is the
declaration; all others are left alone. -/
def ofAttributes (attributes : List (List Token)) : Except Fault UnitDeclaration :=
  match attributes.findSome? unitArguments? with
  | none => .error .missingAttribute
  | some .none => .error .bareAttribute
  | some .assigned => .error .assignedAttribute
  | some (.list tokens) => ofArguments tokens

end Metrology.Declaration
