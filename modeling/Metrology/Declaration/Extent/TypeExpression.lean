import Metrology.Declaration.Extent.Path

/-!
# Steps through a type

How one token is judged where a type, a bound or an argument in angle brackets may stand.
-/

namespace Metrology.Declaration

open Step
open Token (beginWith)

/-- Decides on a token that begins a type. -/
def stepType (stack : List Frame) (plus : Bool) (tokens : List Token) : Step :=
  match tokens with
  | .word name :: _ =>
    if name = "dyn" ∨ name = "impl" then keep stack (.bound plus false)
    else if name = "_" then keep stack (.typeEnd false)
    else if beginsPath name then stepSegment stack (Path.start (.type plus) true) tokens
    else fail (.expected .type false)
  | .opening .round :: _ => enter stack .types (.typeEnd false) .typeElement
  | .opening .square :: _ => enter stack .slice (.typeEnd false) (.type true)
  | .mark '&' _ :: _ => keep stack .referent
  | .mark '*' _ :: _ => keep stack .pointee
  | .mark '!' _ :: _ => keep stack (.typeEnd false)
  | .mark '<' _ :: _ =>
    enter stack .owner (.separator { Path.start (.type plus) false with plain := false })
      (.type true)
  | _ =>
    if beginWith [':', ':'] tokens then
      keepMany stack 2 (.segment (Path.start (.type plus) false))
    else fail (.expected .type (atListEnd tokens))

/-- Decides on a token that begins a type or closes a list. -/
def stepTypeElement (stack : List Frame) (tokens : List Token) : Step :=
  match tokens with
  | .closing _ :: _ => close stack
  | _ => stepType stack true tokens

/-- Decides on a token after the sign of a reference. -/
def stepReferent (stack : List Frame) (tokens : List Token) : Step :=
  match tokens with
  | .mark '\'' _ :: _ => keepMany stack 2 .referent
  | .word "mut" :: _ => keep stack (.type false)
  | _ => stepType stack false tokens

def stepPointee (stack : List Frame) (tokens : List Token) : Step :=
  match tokens with
  | .word "const" :: _ | .word "mut" :: _ => keep stack (.type false)
  | _ => fail (.expected .pointee (atListEnd tokens))

/-- Decides on a token after a bound. -/
def stepBoundEnd (stack : List Frame) (plus : Bool) (tokens : List Token) : Step :=
  if plus && beginWith ['+'] tokens then keep stack (.bound plus true)
  else endType stack false tokens

/-- Decides on a token that begins a bound. -/
def stepBound (stack : List Frame) (plus optional : Bool) (tokens : List Token) : Step :=
  let path : Path := { Path.start (.type plus) false with plain := false }
  match tokens with
  | .word _ :: _ => stepSegment stack path tokens
  | .mark '?' _ :: _ => keep stack (.bound plus false)
  | .mark '\'' _ :: _ => keepMany stack 2 (.boundEnd plus)
  | .opening .round :: _ => enter stack .group (.boundEnd plus) .token
  | _ =>
    if beginWith [':', ':'] tokens then stepPathStart stack path tokens
    else if optional then stepBoundEnd stack false tokens
    else fail (.expected .identifier (atListEnd tokens))

/-- Decides on a token after the parameters of a function type. -/
def stepArrow (stack : List Frame) (plus : Bool) (tokens : List Token) : Step :=
  if beginWith ['-', '>'] tokens then keepMany stack 2 (.type false)
  else if beginWith [':', ':'] tokens then
    keepMany stack 2 (.segment { Path.start (.type plus) false with plain := false })
  else stepBoundEnd stack plus tokens

/-- How many tokens the literal at the front has, if there is one; a numeral may have a sign. -/
def literalLength : List Token → Nat
  | .text _ :: _ | .literal _ :: _ | .word "true" :: _ | .word "false" :: _ => 1
  | .mark '-' _ :: .literal source :: _ => if source.toList.head?.any Char.isDigit then 2 else 0
  | _ => 0

/-- Decides on a token that begins the value of an argument: a literal, a block or a type. -/
def stepAssigned (stack : List Frame) (tokens : List Token) : Step :=
  if 0 < literalLength tokens then keepMany stack (literalLength tokens) (.typeEnd false)
  else if tokens.head? = some (.opening .curly) then
    enter stack .block (.typeEnd false) .statement
  else stepType stack true tokens

/-- Decides on a token that begins an argument or closes the list of arguments. -/
def stepArgument (stack : List Frame) (tokens : List Token) : Step :=
  match tokens with
  | .mark '>' _ :: _ => close stack
  | .mark '\'' _ :: _ => keepMany stack 2 (.typeEnd false)
  | _ => stepAssigned stack tokens

/-- Decides on a token after the colon behind the name of an argument. -/
def stepConstraint (stack : List Frame) (tokens : List Token) : Step :=
  if beginWith [','] tokens || beginWith ['>'] tokens then endType stack false tokens
  else stepBound stack true false tokens

end Metrology.Declaration
