import Mathlib.Logic.Basic
import Metrology.Proofs.CheckedQuantity.Outcome

/-!
# Accumulation

A running total is added to and subtracted from, call after call, and some of the calls are refused.
Main statement: such a run is atomic. The identity of the total is what it was at the start, a call
with an operand in another unit is refused with both identities and changes nothing, and the final
magnitude is what the other calls make of the first one, in their order.

A step has two outcomes only, told apart by the identity of the operand (`perform_of_same`,
`perform_of_other`). Neither changes the identity, so the whole run is told apart by the identity
that it started with, and one induction describes it (`accumulate_eq`).
-/

namespace Metrology

namespace Identity

/-- Whether two identities disagree in the ratio, in the power of ten or in one of the exponents of
their dimensions. -/
def DisagreesWith (i j : Identity) : Prop :=
  i.ratio ≠ j.ratio ∨ i.exponent ≠ j.exponent ∨
    ∃ base, i.dimension.exponent base ≠ j.dimension.exponent base

lemma disagreesWith_iff {i j : Identity} : i.DisagreesWith j ↔ i ≠ j := by
  rw [ne_eq, Identity.ext_iff, Dimension.ext_iff, not_and_or, not_and_or, not_forall]
  rfl

end Identity

namespace CheckedQuantity

/-! ## Runs -/

/-- A call on an accumulator, with its operand. -/
inductive Call where
  | addTo (operand : CheckedQuantity)
  | subFrom (operand : CheckedQuantity)

namespace Call

def operand : Call → CheckedQuantity
  | addTo b | subFrom b => b

def operation : Call → Comparison
  | addTo _ => .addition
  | subFrom _ => .subtraction

def combine (x : Float) : Call → Float
  | addTo b => x + b.magnitude
  | subFrom b => x - b.magnitude

/-- What a call answers to an accumulator with the identity `i`. -/
def answer (i : Identity) (call : Call) : Checked PUnit :=
  if i = call.operand.identity then .accept ⟨⟩
  else .reject (.unlikeUnits call.operation i call.operand.identity)
    (.unitMismatch i call.operand.identity)

end Call

/-- The accumulator after a call, and the answer. -/
def perform (q : CheckedQuantity) : Call → CheckedQuantity × Checked PUnit
  | .addTo b => q.addTo b
  | .subFrom b => q.subFrom b

/-- The accumulator after a run of calls, and the answers in order. -/
def accumulate (q : CheckedQuantity) : List Call → CheckedQuantity × List (Checked PUnit)
  | [] => (q, [])
  | call :: rest =>
    let next := q.perform call
    let last := next.1.accumulate rest
    (last.1, next.2 :: last.2)

/-! ## One step -/

variable {q : CheckedQuantity} {call : Call}

lemma perform_of_same (same : q.identity = call.operand.identity) :
    q.perform call = (⟨call.combine q.magnitude, q.identity⟩, .accept ⟨⟩) := by
  cases call with
  | addTo b =>
    have same : q.identity = b.identity := same
    rw [perform, addTo, add_of_same same]
    rfl
  | subFrom b =>
    have same : q.identity = b.identity := same
    rw [perform, subFrom, sub_of_same same]
    rfl

/-- An operand in another unit is refused, and the accumulator is what it was. -/
lemma perform_of_other (other : q.identity ≠ call.operand.identity) :
    q.perform call =
      (q, .reject (.unlikeUnits call.operation q.identity call.operand.identity)
        (.unitMismatch q.identity call.operand.identity)) := by
  cases call with
  | addTo b =>
    have other : q.identity ≠ b.identity := other
    rw [perform, addTo, add, requireSame, if_neg other]
    rfl
  | subFrom b =>
    have other : q.identity ≠ b.identity := other
    rw [perform, subFrom, sub, requireSame, if_neg other]
    rfl

/-! ## Whole runs -/

/-- A run keeps the identity, folds the accepted calls over the magnitude in their order, and
answers every call by the identity that it started with. -/
lemma accumulate_eq (q : CheckedQuantity) (calls : List Call) :
    q.accumulate calls =
      (⟨(calls.filter fun call => q.identity = call.operand.identity).foldl Call.combine
          q.magnitude, q.identity⟩, calls.map (Call.answer q.identity)) := by
  induction calls generalizing q with
  | nil => rfl
  | cons call rest ih =>
    -- either way the next accumulator has the identity of this one, so the rest is told apart alike
    rw [List.map_cons, Call.answer]
    by_cases same : q.identity = call.operand.identity
    · simp only [accumulate, perform_of_same same, ih]
      rw [if_pos same, List.filter_cons_of_pos (by simpa using same), List.foldl_cons]
    · simp only [accumulate, perform_of_other same, ih]
      rw [if_neg same, List.filter_cons_of_neg (by simpa using same)]

/-- Accumulation is atomic. At every point of a run the accumulator has the identity it started
with; a call whose operand disagrees with it in any part is refused, with the accumulator's identity
on the left and the operand's on the right, and leaves the accumulator as it was; and the final
magnitude is the fold of the matching operands in call order. -/
theorem accumulate_atomic (start : CheckedQuantity) (calls : List Call) :
    (∀ before after, calls = before ++ after →
      (start.accumulate before).1.identity = start.identity) ∧
    (∀ before call after, calls = before ++ call :: after →
      start.identity.DisagreesWith call.operand.identity →
        (start.accumulate (before ++ [call])).1 = (start.accumulate before).1 ∧
        (start.accumulate calls).2[before.length]? =
          some (.reject (.unlikeUnits call.operation start.identity call.operand.identity)
            (.unitMismatch start.identity call.operand.identity))) ∧
    (start.accumulate calls).1.magnitude =
      (calls.filter fun call => start.identity = call.operand.identity).foldl Call.combine
        start.magnitude := by
  refine ⟨?_, ?_, ?_⟩
  · intro before after _
    rw [accumulate_eq]
  · intro before call after run disagree
    have other : start.identity ≠ call.operand.identity := Identity.disagreesWith_iff.1 disagree
    constructor
    · rw [accumulate_eq, accumulate_eq, List.filter_append,
        List.filter_cons_of_neg (by simpa using other), List.filter_nil, List.append_nil]
    · rw [accumulate_eq, run, List.map_append, List.map_cons,
        List.getElem?_append_right (by simp), List.length_map, Nat.sub_self,
        List.getElem?_cons_zero, Call.answer, if_neg other]
  · rw [accumulate_eq]

/-- Tenths of a metre, ten to the step, are no metres: the second of these calls is refused. -/
theorem accumulate_metres :
    let length : Dimension := .of .length
    let metres (x : Float) : CheckedQuantity := ⟨x, .one, .zero, length⟩
    let tenths : CheckedQuantity :=
      ⟨4, ⟨10, 1, by decide, by decide, by decide, by decide⟩, ⟨-1, by decide⟩, length⟩
    ((metres 1).accumulate [.addTo (metres 2), .subFrom tenths]).1 =
        ((metres 1).accumulate [.addTo (metres 2)]).1 ∧
      ((metres 1).accumulate [.addTo (metres 2), .subFrom tenths, .subFrom (metres 8)]).2[1]? =
        some (.reject (.unlikeUnits .subtraction (metres 1).identity tenths.identity)
          (.unitMismatch (metres 1).identity tenths.identity)) ∧
      ((metres 1).accumulate
        [.addTo (metres 2), .subFrom tenths, .subFrom (metres 8)]).1.magnitude = 1 + 2 - 8 := by
  intro length metres tenths
  obtain ⟨_, refused, total⟩ :=
    accumulate_atomic (metres 1) [.addTo (metres 2), .subFrom tenths, .subFrom (metres 8)]
  obtain ⟨unchanged, answer⟩ :=
    refused [.addTo (metres 2)] (.subFrom tenths) [.subFrom (metres 8)] rfl (.inl (by decide))
  exact ⟨unchanged, answer, total⟩

end CheckedQuantity

end Metrology
