import Metrology.Proofs.Ratio.WideWord

/-!
# Fractions of machine words

Ratio arithmetic on words of 64 bits, with intermediate results in words of 128 bits and with a step
counter of 32 bits. Every step that would wrap, divide by zero or drop bits is a `Trap`; what is left
is the fraction that the machine ends with, or none where it is refused.
-/

namespace Metrology

open WideWord

/-- A fraction of two words of 64 bits. -/
structure WordRatio where
  num : Int64
  den : Int64
deriving DecidableEq

namespace WordRatio

/-- What an operation ends with: a fraction or none, unless a step was a trap. -/
abbrev Answer : Type := Except Trap (Option WordRatio)

/-- A fraction of wide words, before it is reduced. -/
abbrev Raw : Type := Except Trap (BitVec 128 × BitVec 128)

/-! ## Reduction -/

/-- The denominator's sign moved to the numerator. -/
def moveSign (num den : BitVec 128) : Raw :=
  if den.slt 0 then do
    return (← neg num, ← neg den)
  else return (num, den)

/-- The parts as words of 64 bits, if they fit. -/
def store (num den : BitVec 128) : Answer :=
  if num.slt (widen .minValue) ∨ (widen .maxValue).slt num ∨ (widen .maxValue).slt den then
    return none
  else do
    return some ⟨← narrow num, ← narrow den⟩

/-- The fraction in lowest terms, if there is one and it fits. -/
def reduce (num den : BitVec 128) : Answer :=
  if den = 0 then return none
  else do
    let divisor ← signed (← gcd num.abs den.abs)
    let low ← moveSign (← WideWord.div num divisor) (← WideWord.div den divisor)
    store low.1 low.2

/-! ## Operations

Each forms a fraction of wide words, which is then reduced. -/

def rawWords (num den : Int64) : Raw :=
  return (widen num, widen den)

def rawProduct (a b : WordRatio) : Raw := do
  return (← WideWord.mul (widen a.num) (widen b.num), ← WideWord.mul (widen a.den) (widen b.den))

def rawQuotient (a b : WordRatio) : Raw := do
  return (← WideWord.mul (widen a.num) (widen b.den), ← WideWord.mul (widen a.den) (widen b.num))

def rawReciprocal (a : WordRatio) : Raw :=
  return (widen a.den, widen a.num)

def ofWords (num den : Int64) : Answer := do
  let raw ← rawWords num den
  reduce raw.1 raw.2

def mul (a b : WordRatio) : Answer := do
  let raw ← rawProduct a b
  reduce raw.1 raw.2

def div (a b : WordRatio) : Answer := do
  let raw ← rawQuotient a b
  reduce raw.1 raw.2

def recip (a : WordRatio) : Answer := do
  let raw ← rawReciprocal a
  reduce raw.1 raw.2

/-- A computation that goes on with an answer, unless there is none. -/
def andThen (answer : Answer) (next : WordRatio → Answer) : Answer := do
  match ← answer with
  | none => return none
  | some r => next r

/-! ## Powers -/

/-- The next value of a step counter. -/
def count (i : UInt32) : Except Trap UInt32 :=
  if i.toBitVec.uaddOverflow 1 then .error .overflow else .ok (i + 1)

/-- The counter moves by one as long as it does not wrap. -/
lemma count_eq {i : UInt32} (lt : i.toNat + 1 < 2 ^ 32) : count i = .ok (i + 1) := by
  have exact : ¬i.toBitVec.uaddOverflow 1 = true := by
    simp only [BitVec.uaddOverflow, decide_eq_true_eq]
    exact Nat.not_le.2 lt
  rw [count, if_neg exact]

lemma toNat_of_count {i j : UInt32} (counted : count i = .ok j) : j.toNat = i.toNat + 1 := by
  unfold count at counted
  split at counted
  · cases counted
  · rename_i exact
    cases counted
    simp only [BitVec.uaddOverflow, decide_eq_true_eq] at exact
    exact Nat.mod_eq_of_lt (Nat.lt_of_not_ge exact)

/-- The loop of a power: one more factor for each step from `i` up to `steps`. -/
def powLoop (base : WordRatio) (steps i : UInt32) (result : WordRatio) : Answer :=
  if before : i < steps then
    match result.mul base with
    | .error trap => .error trap
    | .ok none => .ok none
    | .ok (some next) =>
      match counted : count i with
      | .error trap => .error trap
      | .ok j =>
        have := toNat_of_count counted
        have := UInt32.lt_iff_toNat_lt.1 before
        powLoop base steps j next
  else .ok (some result)
termination_by steps.toNat - i.toNat
decreasing_by
  omega

/-- A step below the end of the loop never wraps the counter. -/
lemma powLoop_of_lt {steps i : UInt32} (base result : WordRatio) (before : i < steps) :
    powLoop base steps i result = andThen (result.mul base) (powLoop base steps (i + 1)) := by
  have bound := steps.toNat_lt
  have below := UInt32.lt_iff_toNat_lt.1 before
  rw [powLoop, dif_pos before, andThen]
  rcases result.mul base with trap | _ | next
  · rfl
  · rfl
  · simp only [Trap.ok_bind]
    split
    · rename_i trap failed
      rw [count_eq (by omega)] at failed
      cases failed
    · rename_i j counted
      rw [count_eq (by omega)] at counted
      cases counted
      rfl

/-- An integer power: for a negative one, the reciprocal is raised. -/
def pow (r : WordRatio) (n : Int32) : Answer :=
  let steps : UInt32 := .ofBitVec n.toBitVec.abs
  andThen (if n < 0 then r.recip else return some r) fun base => powLoop base steps 0 ⟨1, 1⟩

end WordRatio

end Metrology
