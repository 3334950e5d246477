import Metrology.Proofs.CheckedQuantity.Outcome
import Metrology.Proofs.Identity.Power

/-!
# Powers as repeated products and quotients

An integer power of a checked quantity is what repeated multiplication by it gives, starting from
the number one, and for a negative exponent what repeated division gives. Main statement: both agree
in the magnitude, in the identity and in whether they are refused, for every quantity and every
exponent. Magnitudes are multiplied in the same order on both sides, so that they agree in every bit.
-/

namespace Metrology

namespace Attempt

variable {ε α : Type}

/-- Applies a step `n` times and stops at the first refusal. -/
def repeated (step : α → Attempt ε α) (n : Nat) (a : α) : Attempt ε α :=
  Nat.repeat (·.andThen step) n (.accept a)

variable {step : α → Attempt ε α} {a b : α} {n : Nat}

@[simp] lemma repeated_zero : repeated step 0 a = .accept a := rfl

@[simp] lemma repeated_succ : repeated step (n + 1) a = (repeated step n a).andThen step := rfl

/-- A refusal is final: a further step is refused for the same cause. -/
lemma andThen_eq_error_iff {x : Attempt ε α} {e : ε} :
    (x.andThen step).result = .error e ↔
      x.result = .error e ∨ ∃ b, x.result = .ok b ∧ (step b).result = .error e := by
  obtain ⟨result, notices⟩ := x
  cases result with
  | error r => simp [andThen]
  | ok b => simp [andThen]

/-- A repetition is refused if one of its steps is. -/
lemma repeated_eq_error_iff {e : ε} :
    (repeated step n a).result = .error e ↔
      ∃ k < n, ∃ b, (repeated step k a).result = .ok b ∧ (step b).result = .error e := by
  induction n with
  | zero => simp [accept]
  | succ n ih =>
    rw [repeated_succ, andThen_eq_error_iff, ih]
    constructor
    · rintro (⟨k, lt, refused⟩ | refused)
      · exact ⟨k, Nat.lt_succ_of_lt lt, refused⟩
      · exact ⟨n, n.lt_succ_self, refused⟩
    · rintro ⟨k, lt, refused⟩
      rcases Nat.lt_succ_iff_lt_or_eq.1 lt with before | rfl
      · exact .inl ⟨k, before, refused⟩
      · exact .inr refused

end Attempt

namespace CheckedQuantity

/-- The number one. -/
def one : CheckedQuantity := ⟨1, .scalar⟩

/-- Repeating a step that works on magnitude and identity apart composes each of them apart. -/
lemma repeated_compose {step : CheckedQuantity → Checked CheckedQuantity} (g : Float → Float)
    (f : Identity → Option Identity)
    (parts : ∀ p, step p = compose (g p.magnitude) (f p.identity)) (n : Nat) (x : Float)
    (i : Identity) :
    Attempt.repeated step n ⟨x, i⟩ =
      compose (Nat.repeat g n x) (Nat.repeat (·.bind f) n (some i)) := by
  induction n with
  | zero => rfl
  | succ n ih =>
    rw [Attempt.repeated_succ, ih, Nat.repeat, Nat.repeat]
    cases Nat.repeat (·.bind f) n (some i) with
    | none => rfl
    | some j => exact parts ⟨Nat.repeat g n x, j⟩

/-- The step that is repeated for a power: a product, or a quotient where the exponent is negative. -/
def powerStep (q : CheckedQuantity) (n : Exponent) (p : CheckedQuantity) :
    Checked CheckedQuantity :=
  if n.toInt < 0 then p.div q else p.mul q

/-- Magnitude and identity of a power are repeated steps of their own, in the same direction. -/
lemma pow_eq_repeated_powerStep (q : CheckedQuantity) (n : Exponent) :
    q.pow n = Attempt.repeated (q.powerStep n) n.toInt.natAbs one := by
  by_cases negative : n.toInt < 0
  · have parts : ∀ p, q.powerStep n p =
        compose (p.magnitude / q.magnitude) (p.identity.div? q.identity) :=
      fun p => if_pos negative
    rw [one, repeated_compose (· / q.magnitude) (·.div? q.identity) parts, pow, Magnitude.power,
      if_pos negative, Magnitude.natInverse, iterate_eq, Identity.pow?_eq_repeat_div? _ negative]
  · have parts : ∀ p, q.powerStep n p =
        compose (p.magnitude * q.magnitude) (p.identity.mul? q.identity) :=
      fun p => if_neg negative
    rw [one, repeated_compose (· * q.magnitude) (·.mul? q.identity) parts, pow, Magnitude.power,
      if_neg negative, Magnitude.natPower, iterate_eq,
      Identity.pow?_eq_repeat_mul? _ (Int.not_lt.1 negative)]

/-- A step is refused with one cause only. -/
lemma powerStep_eq_error {q p : CheckedQuantity} {n : Exponent} {r : Refusal}
    (refused : (q.powerStep n p).result = .error r) : r = .overflow := by
  unfold powerStep at refused
  split at refused
  · exact (compose_eq_error_iff.1 refused).2
  · exact (compose_eq_error_iff.1 refused).2

/-- A power answers what the repeated step answers, magnitude, identity and notices alike, and it is
refused exactly if one of the steps is. -/
theorem pow_agrees_with_repeated (q : CheckedQuantity) (n : Exponent) :
    q.pow n = Attempt.repeated (q.powerStep n) n.toInt.natAbs one ∧
      ((q.pow n).result = .error .overflow ↔
        ∃ k < n.toInt.natAbs, ∃ p r,
          (Attempt.repeated (q.powerStep n) k one).result = .ok p ∧
            (q.powerStep n p).result = .error r) := by
  have agree := q.pow_eq_repeated_powerStep n
  refine ⟨agree, ?_⟩
  rw [agree, Attempt.repeated_eq_error_iff]
  constructor
  · rintro ⟨k, lt, p, reached, refused⟩
    exact ⟨k, lt, p, .overflow, reached, refused⟩
  · rintro ⟨k, lt, p, r, reached, refused⟩
    obtain rfl := powerStep_eq_error refused
    exact ⟨k, lt, p, reached, refused⟩

end CheckedQuantity

end Metrology
