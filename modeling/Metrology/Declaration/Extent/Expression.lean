import Metrology.Declaration.Extent.Group

/-!
# Steps through an expression

How one token is judged where an operand, an operator, a member or a statement may stand. Operands
and operators alternate, so how tightly an operator binds matters only to comparisons, which do not
chain, and to ranges, which are no operands.
-/

namespace Metrology.Declaration

open Step
open Token (beginWith)

/-- Decides on a token before which an expression has ended. -/
def endExpression (stack : List Frame) (tokens : List Token) : Step :=
  match stack with
  | [] => stop
  | ⟨.header arms, after⟩ :: outer => stepBody outer arms after tokens
  | ⟨listing, after⟩ :: outer =>
    match tokens with
    | .closing _ :: _ => keep outer after
    | _ =>
      match listing with
      | .elements =>
        if beginWith [','] tokens then keep (⟨.square, after⟩ :: outer) .element
        else if beginWith [';'] tokens then keep (⟨.lone, after⟩ :: outer) (.operand {})
        else fail .expectedSeparator
      | .block =>
        if beginWith [';'] tokens then keep stack .statement else fail (.unexpectedToken ";")
      | .lone => fail (.unexpectedToken "]")
      | _ => if beginWith [','] tokens then keep stack .element else fail (.expectedMark ",")

/-- A range from here; a range is no operand of another one, except behind an assignment. -/
def stepRange (stack : List Frame) (p : Progress) (tokens : List Token) : Step :=
  let next : Progress :=
    { ranged := true, assigned := p.assigned && !p.ranged, governs := p.governs }
  if beginWith ['.', '.', '='] tokens then keepMany stack 3 (.operand next)
  else if beginWith ['.', '.', '.'] tokens then fail .expectedRange
  else keepMany stack 2 (.rangeEnd next)

/-- Decides on a token after an operand to which nothing can be attached any more. -/
def stepInfix (stack : List Frame) (p : Progress) (tokens : List Token) : Step :=
  let closed := p.ranged && !p.assigned
  match infixAt? tokens with
  | some (count, .tight) => keepMany stack count (.operand p)
  | some (count, .comparison) =>
    if p.compared then fail .chainedComparison
    else keepMany stack count (.operand { p with compared := true })
  | some (count, .logical) => keepMany stack count (.operand { p with compared := false })
  | some (count, .assignment) =>
    if closed then endExpression stack tokens
    else keepMany stack count (.operand { assigned := true, governs := p.governs })
  | none =>
    if beginWith ['.', '.'] tokens then
      if closed then endExpression stack tokens else stepRange stack p tokens
    else if tokens.head? = some (.word "as") then
      enter stack (.cast p) (.operator p false) (.type false)
    else endExpression stack tokens

/-- Decides on a token after an operand. -/
def stepOperator (stack : List Frame) (p : Progress) (tokens : List Token) : Step :=
  match tokens with
  | .opening .round :: _ => enter stack .round (.operator p true) .element
  | .opening .square :: _ => enter stack .lone (.operator p true) (.operand {})
  | .mark '?' _ :: _ => keep stack (.operator p true)
  | _ =>
    if beginWith ['.'] tokens && !beginWith ['.', '.'] tokens then keep stack (.member p)
    else stepInfix stack p tokens

/-- Decides on a token after a range without an upper end. -/
def endRange (stack : List Frame) (p : Progress) (tokens : List Token) : Step :=
  match infixAt? tokens with
  | some (_, .assignment) => stepInfix stack p tokens
  | _ => endExpression stack tokens

/-- Decides on a word that begins an operand. -/
def stepWord (stack : List Frame) (p : Progress) (name : String) (rest : List Token) : Step :=
  let next : Expecting := .operator p true
  let header : Expecting := .operand { governs := true }
  match name with
  | "if" => enter stack (.header false) (.branch p) header
  | "while" => enter stack (.header false) next header
  | "for" => enter stack (.header false) next (.upTo "in" header)
  | "match" => enter stack (.header true) next header
  | "let" => keep stack (.upTo "=" (.operand { p with compared := false }))
  | _ =>
    if isConstantWord name then keep stack next
    else if beginsBlock name && rest.head? == some (.opening .curly) then
      keep stack (.body false next)
    else if name == "move" && beginWith ['|'] rest then keep stack (.operand p)
    else if beginsPath name then
      keep stack (.path { Path.start (.value p) true with
        last := if isScope name then .scope else .name })
    else fail (.expected .expression false)

/-- Decides on a token that begins an operand. -/
def stepOperand (stack : List Frame) (p : Progress) (tokens : List Token) : Step :=
  let next : Expecting := .operator p true
  match tokens with
  | .text _ :: _ | .literal _ :: _ => keep stack next
  | .opening .round :: _ => enter stack .round next .element
  | .opening .square :: _ => enter stack .elements next .element
  | .opening .curly :: _ => enter stack .block next .statement
  | .word name :: rest => stepWord stack p name rest
  | .mark '#' _ :: rest =>
    if rest.head? = some (.opening .square) then keep stack (.group (.operand p))
    else fail (.expected .squareBrackets (atListEnd rest))
  | .mark '&' _ :: _ => keep stack (.borrowed p)
  | .mark '*' _ :: _ | .mark '!' _ :: _ | .mark '-' _ :: _ => keep stack (.operand p)
  | .mark '|' _ :: _ => keep stack (.upTo "|" (.operand { governs := p.governs }))
  | .mark '<' _ :: _ =>
    enter stack .owner (.separator { Path.start (.value p) false with plain := false }) (.type true)
  | _ =>
    if beginWith [':', ':'] tokens then
      keepMany stack 2 (.segment (Path.start (.value p) false))
    else if beginWith ['.', '.'] tokens then stepRange stack p tokens
    else fail (.expected .expression (atListEnd tokens))

/-- Decides on a token that begins an operand or closes a list. -/
def stepElement (stack : List Frame) (tokens : List Token) : Step :=
  match tokens with
  | .closing _ :: _ => close stack
  | _ => stepOperand stack {} tokens

/-- Decides on a token after the sign of a borrow. -/
def stepBorrowed (stack : List Frame) (p : Progress) (tokens : List Token) : Step :=
  match tokens with
  | .word "mut" :: _ => keep stack (.operand p)
  | .word "raw" :: .word "const" :: _ | .word "raw" :: .word "mut" :: _ =>
    keepMany stack 2 (.operand p)
  | _ => stepOperand stack p tokens

/-- Decides on a token after the point before a member. -/
def stepMember (stack : List Frame) (p : Progress) (tokens : List Token) : Step :=
  match tokens with
  | .literal _ :: _ | .word "await" :: _ => keep stack (.operator p true)
  | .word name :: _ =>
    if isReserved name then fail (.expected .member false) else keep stack (.memberEnd p)
  | _ => fail (.expected .member (atListEnd tokens))

/-- Decides on a token after the name of a member: arguments in angle brackets make it a call. -/
def stepMemberEnd (stack : List Frame) (p : Progress) (tokens : List Token) : Step :=
  if beginWith [':', ':'] tokens then
    if beginWith ['<'] (tokens.drop 2) then
      keepMany (⟨.arguments, .call p⟩ :: stack) 3 .argument
    else fail (.expectedMark "<")
  else stepOperator stack p tokens

def stepCall (stack : List Frame) (p : Progress) (tokens : List Token) : Step :=
  match tokens with
  | .opening .round :: _ => enter stack .round (.operator p true) .element
  | _ => fail (.expected .parentheses (atListEnd tokens))

/-- Decides on a token after the body under a condition. -/
def stepBranch (stack : List Frame) (p : Progress) (tokens : List Token) : Step :=
  match tokens with
  | .word "else" :: _ => keep stack (.otherwise p)
  | _ => stepOperator stack p tokens

/-- Decides on a token after the word for the other case of a condition. -/
def stepOtherwise (stack : List Frame) (p : Progress) (tokens : List Token) : Step :=
  match tokens with
  | .word "if" :: _ | .opening .curly :: _ => stepOperand stack p tokens
  | _ => fail (.expected .alternative (atListEnd tokens))

/-- Decides on a token that begins a statement. Only expressions are looked into. -/
def stepStatement (stack : List Frame) (tokens : List Token) : Step :=
  match tokens with
  | .closing _ :: _ => close stack
  | .mark ';' _ :: _ => keep stack .statement
  | .mark '#' _ :: _ => keep stack .token
  | .mark '\'' _ :: _ => keep stack .token
  | .word name :: _ =>
    if beginsPath name || isConstantWord name then stepOperand stack {} tokens
    else keep stack .token
  | _ => stepOperand stack {} tokens

end Metrology.Declaration
