import Mathlib
import Metrology.Proofs.Magnitude.Arithmetic

/-!
# Nearest doubles

The rational number that a double stands for (`value`), and the doubles that are nearest to a
rational number, with the even one of two that are equally near (`NearestEven`). Main statement: what
a number in range is rounded to is nearest to it (`Rounded.nearestEven`), and a number that is a
double already is not changed (`Rounded.eq_of_value_eq`).
-/

namespace Metrology.Magnitude

open Float.Model Float.Model.UnpackedFloat

variable {x y : Float} {s t : Sign} {v r : ℚ} {m : Nat} {e : Int}

/-! ## Values -/

/-- A number with a sign. -/
def signed : Sign → ℚ → ℚ
  | .positive, r => r
  | .negative, r => -r

/-- The rational number that a double stands for; zero where there is none. -/
def value (x : Float) : ℚ :=
  match x.toModel.unpack with
  | .finite s m e _ => signed s (m * 2 ^ e)
  | _ => 0

/-- A finite double that no other one is nearer to a number than, with an even mantissa if another
one is equally near. -/
structure NearestEven (x : Float) (r : ℚ) : Prop where
  finite : x.isFinite
  nearest : ∀ y : Float, y.isFinite → |value x - r| ≤ |value y - r|
  even : ∀ y : Float, y.isFinite → value y ≠ value x → |value y - r| = |value x - r| →
    x.toBits.toNat % 2 = 0

lemma Denotes.value_eq (denotes : Denotes x s v) : value x = signed s v := by
  obtain ⟨m, e, finite, unpacked, rfl⟩ := denotes
  rw [value, unpacked]

lemma Denotes.isFinite (denotes : Denotes x s v) : x.isFinite := by
  obtain ⟨m, e, finite, unpacked, _⟩ := denotes
  show x.toModel.unpack.isFinite = true
  rw [unpacked]
  rfl

lemma Denotes.pos (denotes : Denotes x s v) : 0 < v := by
  obtain ⟨m, e, finite, _, rfl⟩ := denotes
  have := finite.pos
  positivity

/-- A double is its sign and its absolute value. -/
lemma Denotes.unique (left : Denotes x s v) (right : Denotes y s v) : x = y := by
  obtain ⟨m, e, finite, unpacked, same⟩ := left
  obtain ⟨m', e', finite', unpacked', same'⟩ := right
  obtain ⟨rfl, rfl⟩ := finite.canonical.unique finite'.canonical (same.trans same'.symm)
  have : x.toModel = y.toModel := by
    rw [← pack_of_unpack unpacked, ← pack_of_unpack unpacked']
  exact congrArg Float.ofModel this

/-- A double with a value other than zero is finite. -/
lemma denotes_of_value_ne_zero (nonzero : value x ≠ 0) : ∃ s v, Denotes x s v := by
  unfold value at nonzero
  split at nonzero
  · rename_i unpacked
    exact ⟨_, _, denotes_of_unpack unpacked⟩
  · exact absurd rfl nonzero

/-- The doubles that are finite and differ from zero are those with a sign and an absolute value. -/
lemma denotes_iff : (∃ s v, Denotes x s v) ↔ x.isFinite ∧ (x == 0) = false := by
  have finite_eq : x.isFinite = x.toModel.unpack.isFinite := rfl
  have zero_eq : (x == 0) = x.toModel.unpack.beq (.zero .positive) := rfl
  rw [finite_eq, zero_eq]
  constructor
  · rintro ⟨s, v, m, e, finite, unpacked, _⟩
    rw [unpacked]
    cases s <;> exact ⟨rfl, rfl⟩
  · rintro ⟨finite, other⟩
    cases unpacked : x.toModel.unpack with
    | finite s m e pos => exact ⟨s, _, denotes_of_unpack unpacked⟩
    | zero s =>
      rw [unpacked] at other
      cases other
    | infinity s =>
      rw [unpacked] at finite
      cases finite
    | notANumber =>
      rw [unpacked] at finite
      cases finite

lemma isInf_of_unpack (unpacked : x.toModel.unpack = .infinity s) : x.isInf := by
  show x.toModel.unpack.isInf = true
  rw [unpacked]
  rfl

lemma not_isFinite_of_unpack (unpacked : x.toModel.unpack = .infinity s) : x.isFinite = false := by
  show x.toModel.unpack.isFinite = false
  rw [unpacked]
  rfl

lemma beq_zero_of_unpack (unpacked : x.toModel.unpack = .zero s) : x == 0 := by
  show x.toModel.unpack.beq (.zero .positive) = true
  rw [unpacked]
  rfl

/-- Seen from a sign, a double is an absolute value in the grid of doubles, or below zero. -/
lemma exists_value_eq (y : Float) (s : Sign) :
    ∃ (m : Nat) (e : Int), m < 2 ^ 53 ∧ -1074 ≤ e ∧
      (value y = signed s (m * 2 ^ e) ∨ value y = signed s (-(m * 2 ^ e))) := by
  by_cases zero : value y = 0
  · refine ⟨0, 0, by norm_num, by norm_num, .inl ?_⟩
    cases s <;> simp [zero, signed]
  · obtain ⟨t, v, denotes⟩ := denotes_of_value_ne_zero zero
    have value := denotes.value_eq
    obtain ⟨m, e, finite, _, rfl⟩ := denotes
    refine ⟨m, e, finite.lt, finite.least, ?_⟩
    cases s <;> cases t <;> simp [value, signed]

lemma abs_signed_sub (s : Sign) (v r : ℚ) : |signed s v - signed s r| = |v - r| := by
  cases s
  · show |-v - -r| = |v - r|
    rw [neg_sub_neg, abs_sub_comm]
  · rfl

/-- The last bit of a double is the last bit of its mantissa. -/
lemma toBits_parity {pos : 0 < m} (unpacked : x.toModel.unpack = .finite s m e pos) :
    x.toBits.toNat % 2 = m % 2 := by
  obtain ⟨_, spells⟩ := spells_of_unpack unpacked
  have last : x.toBits.toNat % 2 = (mantissaField x.toModel.toBits.toBitVec).toNat % 2 := by
    rw [toNat_mantissaField]
    show x.toModel.toBits.toBitVec.toNat % 2 = _
    omega
  rcases spells with ⟨_, _, mantissa, _⟩ | ⟨_, _, mantissa, _⟩
  · omega
  · omega

/-! ## Rounding to the nearest double -/

/-- A double is at least as far from a number as the one that the number rounds to, and farther if
that one is odd. -/
lemma RoundsTo.nearest (rounds : RoundsTo m e r) (canonical : Canonical m e) (y : Float) (s : Sign)
    (other : value y ≠ signed s (m * 2 ^ e)) :
    |m * 2 ^ e - r| ≤ |value y - signed s r| ∧
      (m % 2 = 1 → |m * 2 ^ e - r| < |value y - signed s r|) := by
  obtain ⟨m', e', lt, least, same | opposite⟩ := exists_value_eq y s
  · rw [same] at other ⊢
    rw [abs_signed_sub]
    exact rounds.closest canonical lt least fun eq => other (by rw [eq])
  · -- zero lies between the two, and it is in the grid
    rw [opposite, abs_signed_sub]
    have r_pos : 0 < r := (two_zpow_pos _).trans (rounds.underflowLimit_lt canonical)
    have above : 0 < (m : ℚ) * 2 ^ e := by
      have := canonical.pos
      positivity
    obtain ⟨near, strict⟩ := rounds.closest canonical (show 0 < 2 ^ 53 by norm_num)
      (show -1074 ≤ (0 : Int) by norm_num) (by simpa using above.ne)
    have beyond : |((0 : Nat) : ℚ) * 2 ^ (0 : Int) - r| ≤ |-((m' : ℚ) * 2 ^ e') - r| := by
      have grid : 0 ≤ (m' : ℚ) * 2 ^ e' := by positivity
      rw [abs_of_neg (by simpa using r_pos), abs_of_neg (by linarith)]
      push_cast
      linarith
    exact ⟨near.trans beyond, fun odd => (strict odd).trans_le beyond⟩

/-- What a number below the overflow limit is rounded to is nearest to it. -/
theorem Rounded.nearestEven (rounded : Rounded x s r) (above : underflowLimit < r)
    (below : r < overflowLimit) : NearestEven x (signed s r) := by
  obtain ⟨m, e, finite, rounds, unpacked⟩ := rounded.exists_roundsTo above below
  have denotes := denotes_of_unpack unpacked
  have distance : |value x - signed s r| = |m * 2 ^ e - r| := by
    rw [denotes.value_eq, abs_signed_sub]
  refine ⟨denotes.isFinite, fun y _ => ?_, fun y _ other tie => ?_⟩
  · by_cases same : value y = value x
    · rw [same]
    · rw [denotes.value_eq] at same
      rw [distance]
      exact (rounds.nearest finite.canonical y s same).1
  · rw [denotes.value_eq] at other
    rw [distance] at tie
    have strict := (rounds.nearest finite.canonical y s other).2
    rw [toBits_parity unpacked]
    by_contra odd
    exact absurd tie (strict (by omega)).ne'

/-! ## Numbers that are doubles -/

/-- A number in the grid of doubles is not changed. -/
lemma Rounded.exact (rounded : Rounded x s r) (above : underflowLimit < r)
    (below : r < overflowLimit) (lt : m < 2 ^ 53) (least : -1074 ≤ e) (grid : m * 2 ^ e = r) :
    Denotes x s r := by
  obtain ⟨m', e', finite, rounds, unpacked⟩ := rounded.exists_roundsTo above below
  have same : (m' : ℚ) * 2 ^ e' = r := by
    by_contra other
    have near := (rounds.closest finite.canonical lt least fun eq => other (eq ▸ grid)).1
    rw [grid, sub_self, abs_zero] at near
    exact other (sub_eq_zero.1 (abs_nonpos_iff.1 near))
  rw [← same]
  exact denotes_of_unpack unpacked

/-- Rounding a number that is a double gives that double. -/
theorem Rounded.eq_of_value_eq (rounded : Rounded x s r) (above : underflowLimit < r)
    (below : r < overflowLimit) (same : value y = signed s r) : x = y := by
  have r_pos : 0 < r := (two_zpow_pos _).trans above
  obtain ⟨t, v, denotes⟩ := denotes_of_value_ne_zero (x := y) <| by
    rw [same]
    cases s <;> simp [signed, r_pos.ne']
  have v_pos := denotes.pos
  rw [denotes.value_eq] at same
  obtain ⟨rfl, rfl⟩ : t = s ∧ v = r := by
    cases s <;> cases t <;> simp only [signed] at same
    · exact ⟨rfl, neg_injective same⟩
    · linarith
    · linarith
    · exact ⟨rfl, same⟩
  obtain ⟨m, e, finite, _, grid⟩ := id denotes
  exact (rounded.exact above below finite.lt finite.least grid).unique denotes

end Metrology.Magnitude
