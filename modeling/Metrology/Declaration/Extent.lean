import Metrology.Declaration.Extent.TypeExpression

/-!
# Extent of values

A value inside a declaration has no end mark of its own: it reaches as far as an expression or a
type can. `scan` finds that place from token to token. The tokens of a value are kept as they were
written, so what is kept and what is left are together what was given (`scan_append`).
-/

namespace Metrology.Declaration

open Step

/-- Decides whether a value goes on with the token at the front. -/
def step (stack : List Frame) (tokens : List Token) : Expecting → Step
  | .operand p => stepOperand stack p tokens
  | .element => stepElement stack tokens
  | .borrowed p => stepBorrowed stack p tokens
  | .operator p trailed =>
    if trailed then stepOperator stack p tokens else stepInfix stack p tokens
  | .rangeEnd p =>
    if endsRange p.governs tokens then endRange stack p tokens else stepOperand stack p tokens
  | .member p => stepMember stack p tokens
  | .memberEnd p => stepMemberEnd stack p tokens
  | .call p => stepCall stack p tokens
  | .branch p => stepBranch stack p tokens
  | .otherwise p => stepOtherwise stack p tokens
  | .statement => stepStatement stack tokens
  | .pathStart path => stepPathStart stack path tokens
  | .segment path => stepSegment stack path tokens
  | .path path => stepPath stack path tokens
  | .separator path => stepSeparator stack path tokens
  | .type plus => stepType stack plus tokens
  | .typeElement => stepTypeElement stack tokens
  | .typeEnd lone => endType stack lone tokens
  | .referent => stepReferent stack tokens
  | .pointee => stepPointee stack tokens
  | .bound plus optional => stepBound stack plus optional tokens
  | .boundEnd plus => stepBoundEnd stack plus tokens
  | .constraint => stepConstraint stack tokens
  | .arrow plus => stepArrow stack plus tokens
  | .argument => stepArgument stack tokens
  | .assigned => stepAssigned stack tokens
  | .body arms after => stepBody stack arms after tokens
  | .upTo source after => stepUpTo stack source after tokens
  | .group after => stepGroup stack after tokens
  | .token => stepToken stack tokens
  | .more count after => keepMany stack count after

/-- The end of a value: the tokens that belong to it and the rest. -/
abbrev Extent := Except Fault (List Token × List Token)

def Extent.cons (t : Token) (x : Extent) : Extent :=
  x.map fun (kept, rest) => (t :: kept, rest)

/-- Goes on through a value up to its end. -/
def scan (stack : List Frame) (next : Expecting) : List Token → Extent
  | [] =>
    match step stack [] next with
    | .fail fault => .error fault
    | _ => .ok ([], [])
  | t :: rest =>
    match step stack (t :: rest) next with
    | .fail fault => .error fault
    | .stop => .ok ([], t :: rest)
    | .keep stack next => Extent.cons t (scan stack next rest)

/-- The extent of the expression at the front of some tokens. -/
def expression (tokens : List Token) : Extent :=
  scan [] (.operand {}) tokens

/-- The extent of the type at the front of some tokens. -/
def typeExpression (tokens : List Token) : Extent :=
  scan [] (.type true) tokens

theorem Extent.cons_eq_ok {t : Token} {x : Extent} {kept rest : List Token}
    (h : Extent.cons t x = .ok (kept, rest)) :
    ∃ tail, x = .ok (tail, rest) ∧ kept = t :: tail := by
  cases x with
  | error => cases h
  | ok p =>
    obtain ⟨tail, left⟩ := p
    cases h
    exact ⟨tail, rfl, rfl⟩

theorem scan_append {stack : List Frame} {next : Expecting} {tokens kept rest : List Token}
    (h : scan stack next tokens = .ok (kept, rest)) : kept ++ rest = tokens := by
  induction tokens generalizing stack next kept with
  | nil =>
    unfold scan at h
    split at h
    · cases h
    · cases h
      rfl
  | cons t tokens ih =>
    unfold scan at h
    split at h
    · cases h
    · cases h
      rfl
    · obtain ⟨tail, scanned, rfl⟩ := Extent.cons_eq_ok h
      exact congrArg (t :: ·) (ih scanned)

theorem expression_append {tokens kept rest : List Token}
    (h : expression tokens = .ok (kept, rest)) : kept ++ rest = tokens :=
  scan_append h

theorem typeExpression_append {tokens kept rest : List Token}
    (h : typeExpression tokens = .ok (kept, rest)) : kept ++ rest = tokens :=
  scan_append h

end Metrology.Declaration