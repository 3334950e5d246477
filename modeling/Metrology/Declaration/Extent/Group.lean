import Metrology.Declaration.Extent.Step
import Metrology.Declaration.Operator

/-!
# Steps through groups

How one token is judged inside brackets that are not looked into, and where a body in braces has to
stand. The inside of a macro, of a record or of a choice ends with its bracket, whatever it says.
-/

namespace Metrology.Declaration

open Step

def stepGroup (stack : List Frame) (after : Expecting) (tokens : List Token) : Step :=
  match tokens with
  | .opening _ :: _ => enter stack .group after .token
  | _ => fail (.expected .group (atListEnd tokens))

/-- Decides on a token inside a group that is not looked into. -/
def stepToken (stack : List Frame) (tokens : List Token) : Step :=
  match tokens with
  | .opening _ :: _ => enter stack .group .token .token
  | .closing _ :: _ => close stack
  | _ => keep stack .token

/-- Decides on a token before the one with the given source text, or on that one. -/
def stepUpTo (stack : List Frame) (source : String) (after : Expecting) (tokens : List Token) :
    Step :=
  match tokens with
  | .opening _ :: _ => enter stack .group (.upTo source after) .token
  | .closing _ :: _ | [] => fail (.expectedMark source)
  | t :: _ => keep stack (if t.source = source then after else .upTo source after)

/-- Decides on a token where a body has to begin. -/
def stepBody (stack : List Frame) (arms : Bool) (after : Expecting) (tokens : List Token) : Step :=
  match tokens with
  | .opening .curly :: _ =>
    if arms then enter stack .group after .token else enter stack .block after .statement
  | _ => fail (.expected .curlyBraces (atListEnd tokens))

end Metrology.Declaration
