import Metrology.Declaration.Extent.Expression

/-!
# Steps through a path

How one token is judged behind a segment of a path, and what comes where a path or any other type
has ended. Among values an angle bracket is an operator unless a separator stands in front of it; in
types it opens arguments, and it closes them also where it is joined to what follows.
-/

namespace Metrology.Declaration

open Step
open Token (beginWith)

/-- What follows a cast and may not. -/
def trailerAt? : List Token → Option Trailer
  | .opening .round :: _ => some .call
  | .opening .square :: _ => some .index
  | .mark '?' _ :: _ => some .question
  | tokens =>
    if beginWith ['.'] tokens && !beginWith ['.', '.'] tokens then
      match tokens.drop 1 with
      | .word "await" :: _ => some .await
      | .word name :: rest =>
        let called := rest.head? == some (.opening .round) || beginWith [':', ':'] rest
        some (if !isReserved name && called then .methodCall else .field)
      | _ => some .field
    else none

/-- Decides on a token before which a type has ended; a lone name may be that of an argument. -/
def endType (stack : List Frame) (lone : Bool) (tokens : List Token) : Step :=
  match stack with
  | [] => stop
  | ⟨listing, after⟩ :: outer =>
    match listing with
    | .cast p =>
      match trailerAt? tokens with
      | some trailer => fail (.castFollowed trailer)
      | none => stepInfix outer p tokens
    | .arguments =>
      if beginWith ['>'] tokens then keep outer after
      else if beginWith [','] tokens then keep stack .argument
      else if lone && beginWith ['='] tokens then keep stack .assigned
      else if lone && beginWith [':'] tokens then keep stack .constraint
      else fail (.expectedMark ",")
    | .owner =>
      if beginWith ['>'] tokens then keep outer after
      else if tokens.head? = some (.word "as") then
        keep (⟨.ownerTrait, after⟩ :: outer) (.pathStart (Path.start .trait true))
      else fail (.expectedMark ">")
    | .ownerTrait => if beginWith ['>'] tokens then keep outer after else fail (.expectedMark ">")
    | .parameters =>
      if atListEnd tokens then keep outer after
      else if beginWith [','] tokens then keep stack .typeElement
      else fail (.expectedMark ",")
    | .types =>
      if atListEnd tokens then keep outer after
      else if beginWith [','] tokens then keep (⟨.parameters, after⟩ :: outer) .typeElement
      else fail (.unexpectedToken ")")
    | .slice =>
      if atListEnd tokens then keep outer after
      else if beginWith [';'] tokens then keep (⟨.lone, after⟩ :: outer) (.operand {})
      else fail (.unexpectedToken "]")
    | _ => stop

/-- Decides on a token where a name or a scope has to stand. -/
def stepSegment (stack : List Frame) (path : Path) (tokens : List Token) : Step :=
  match tokens with
  | .word name :: _ =>
    if isScope name || name == "try" then keep stack (.path { path with last := .scope })
    else if beginsPath name then keep stack (.path { path with last := .name })
    else fail (.reservedWord name)
  | _ => fail (.expected .identifier (atListEnd tokens))

/-- Decides on a token that begins a path. -/
def stepPathStart (stack : List Frame) (path : Path) (tokens : List Token) : Step :=
  if beginWith [':', ':'] tokens then keepMany stack 2 (.segment { path with lone := false })
  else stepSegment stack path tokens

/-- Decides on a token after the last segment of a path, which does not go on. -/
def endPath (stack : List Frame) (path : Path) (tokens : List Token) : Step :=
  let group := path.plain && beginWith ['!'] tokens && !beginWith ['!', '='] tokens
  match path.use with
  | .value p =>
    if group then keep stack (.group (.operator p true))
    else if tokens.head? = some (.opening .curly) ∧ !p.governs then
      enter stack .group (.operator p true) .token
    else stepOperator stack p tokens
  | .type plus =>
    if path.last ≠ .applied ∧ tokens.head? = some (.opening .round) then
      enter stack .parameters (.arrow plus) .typeElement
    else if group then keep stack (.group (.typeEnd false))
    else if plus && beginWith ['+'] tokens then keep stack (.bound plus true)
    else endType stack path.lone tokens
  | .trait => endType stack false tokens

/-- Decides on a token after a segment of a path. Among values, arguments need a separator in
front. -/
def stepPath (stack : List Frame) (path : Path) (tokens : List Token) : Step :=
  let applied : Path := { path with plain := false, last := .applied }
  let isValue := match path.use with
    | .value _ => true
    | _ => false
  if beginWith [':', ':'] tokens then
    if path.last = .name && beginWith ['<'] (tokens.drop 2) then
      keepMany (⟨.arguments, .path applied⟩ :: stack) 3 .argument
    else if (tokens.drop 2).head? = some (.opening .round) then endPath stack path tokens
    else keepMany stack 2 (.segment { path with lone := false })
  else if !isValue && path.last = .name && beginWith ['<'] tokens
      && !beginWith ['<', '='] tokens && !beginWith ['<', '<', '='] tokens then
    enter stack .arguments (.path applied) .argument
  else endPath stack path tokens

/-- Decides on a token after the angle brackets that begin a path. -/
def stepSeparator (stack : List Frame) (path : Path) (tokens : List Token) : Step :=
  if beginWith [':', ':'] tokens then keepMany stack 2 (.segment path)
  else fail (.expectedMark "::")

end Metrology.Declaration
