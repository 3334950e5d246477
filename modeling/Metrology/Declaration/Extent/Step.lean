import Metrology.Declaration.Fault
import Metrology.Declaration.Token

/-!
# Steps through a value

Inside a value something is always expected next, and some lists, bracketed or not, are still open.
Both together say all that the next token is judged by. A token ends the value, is refused, or
belongs to it and changes what is expected and what is open.
-/

namespace Metrology.Declaration

/-- What has been met of an expression since the list that it stands in was opened. -/
structure Progress where
  /-- A comparison, and no looser operator since. -/
  compared : Bool := false
  assigned : Bool := false
  /-- A range, of which the upper end is being read. -/
  ranged : Bool := false
  /-- Whether a brace behind the expression opens a body that it governs. -/
  governs : Bool := false
deriving DecidableEq

/-- Where a path is used. -/
inductive PathUse where
  | value (progress : Progress)
  /-- As a type, to which bounds may be added with a plus sign. -/
  | type (plus : Bool)
  /-- As the trait in which an associated item is looked up. -/
  | trait
deriving DecidableEq

/-- The last segment of a path. -/
inductive Segment where
  | scope
  | name
  /-- A name with its arguments. -/
  | applied
deriving DecidableEq

/-- A path so far. -/
structure Path where
  use : PathUse
  /-- Whether it has one segment only. -/
  lone : Bool
  /-- Whether no segment has arguments. -/
  plain : Bool
  last : Segment
deriving DecidableEq

/-- A path that is about to begin. -/
def Path.start (use : PathUse) (lone : Bool) : Path :=
  { use, lone, plain := true, last := .name }

/-- What may come next inside a value. -/
inductive Expecting where
  | operand (progress : Progress)
  /-- An operand, or the bracket that closes the list. -/
  | element
  /-- The operand of a borrow, perhaps after a word for its kind. -/
  | borrowed (progress : Progress)
  /-- What goes on after an operand; calls and members only after some operands. -/
  | operator (progress : Progress) (trailed : Bool)
  /-- The upper end of a range, which may be missing. -/
  | rangeEnd (progress : Progress)
  | member (progress : Progress)
  /-- What goes on after the name of a member. -/
  | memberEnd (progress : Progress)
  | call (progress : Progress)
  /-- What goes on after the body under a condition. -/
  | branch (progress : Progress)
  | otherwise (progress : Progress)
  | statement
  | pathStart (path : Path)
  | segment (path : Path)
  | path (path : Path)
  /-- The separator after a type in angle brackets that begins a path. -/
  | separator (path : Path)
  | type (plus : Bool)
  /-- A type, or the bracket that closes the list. -/
  | typeElement
  | typeEnd (lone : Bool)
  | referent
  | pointee
  /-- A bound; after a plus sign it may be missing. -/
  | bound (plus : Bool) (optional : Bool)
  | boundEnd (plus : Bool)
  | constraint
  /-- What goes on after the parameters of a function type. -/
  | arrow (plus : Bool)
  /-- An argument in angle brackets, or the bracket that closes them. -/
  | argument
  /-- The value of a named argument. -/
  | assigned
  /-- A body in braces: the arms of a choice, or a block. -/
  | body (arms : Bool) (after : Expecting)
  /-- Anything up to the token with the given source text. -/
  | upTo (source : String) (after : Expecting)
  /-- A group in brackets that is not looked into. -/
  | group (after : Expecting)
  /-- Any token inside such a group. -/
  | token
  /-- Some more tokens that have been looked at already. -/
  | more (count : Nat) (after : Expecting)
deriving DecidableEq

/-- A list that is open. -/
inductive Listing where
  /-- Expressions in parentheses, with commas between them. -/
  | round
  /-- Expressions in square brackets, before it is known how they are separated. -/
  | elements
  /-- Expressions in square brackets, with commas between them. -/
  | square
  /-- One expression in square brackets. -/
  | lone
  | block
  /-- An expression that governs the body behind it. -/
  | header (arms : Bool)
  /-- The type to which an operand is cast. -/
  | cast (progress : Progress)
  /-- Types in parentheses. -/
  | types
  /-- The parameters of a function type. -/
  | parameters
  /-- The type of the elements of an array. -/
  | slice
  /-- Arguments in angle brackets. -/
  | arguments
  /-- A type in angle brackets that begins a path. -/
  | owner
  /-- The trait in such brackets. -/
  | ownerTrait
  | group
deriving DecidableEq

/-- An open list, and what is expected once it is closed. -/
structure Frame where
  listing : Listing
  after : Expecting
deriving DecidableEq

/-- What a token does to a value. -/
inductive Step where
  /-- The value ends before the token. -/
  | stop
  | fail (fault : Fault)
  /-- The token belongs to the value. -/
  | keep (stack : List Frame) (next : Expecting)

namespace Step

def enter (stack : List Frame) (listing : Listing) (after next : Expecting) : Step :=
  keep (⟨listing, after⟩ :: stack) next

/-- Closes the innermost list. -/
def close : List Frame → Step
  | [] => stop
  | frame :: outer => keep outer frame.after

/-- Keeps the given number of tokens, of which the first is at hand. -/
def keepMany (stack : List Frame) (count : Nat) (next : Expecting) : Step :=
  if count ≤ 1 then keep stack next else keep stack (.more (count - 1) next)

end Step

end Metrology.Declaration
