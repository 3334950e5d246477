import Mathlib
import Metrology.Proofs.Identity.Conversion
import Metrology.Proofs.Magnitude.Order

/-!
# Conversion and order

Quantities are compared across units by converting both to one of them. Main statement: a conversion
between positive scales never turns an order around. It can only make two quantities equal, where
they are too near to each other for the target or beyond its range; what is equal stays equal, and
what cannot be compared cannot be compared afterwards either.
-/

namespace Metrology

open Magnitude Float.Model.UnpackedFloat

namespace Identity

variable {a b : Identity}

/-- Between positive scales, a factor that is finite and other than zero is a positive number. -/
lemma exists_denotes_factorTo_positive (source : 0 < a.ratio.value) (target : 0 < b.ratio.value)
    (finite : (a.factorTo b).isFinite) (nonzero : (a.factorTo b == 0) = false) :
    ∃ w, Denotes (a.factorTo b) .positive w := by
  obtain ⟨s, w, denotes⟩ := denotes_iff.2 ⟨finite, nonzero⟩
  have sign := hasSign_factorTo source.ne' target.ne'
  have same : s = .negative ↔ Xor (a.ratio.value < 0) (b.ratio.value < 0) := by
    rw [← Ratio.sign_exactParts source.ne' target.ne', ← sign.isNegative_iff,
      (HasSign.finite denotes).isNegative_iff]
  cases s with
  | negative =>
    rcases same.1 rfl with ⟨negative, _⟩ | ⟨negative, _⟩
    · exact absurd negative source.not_gt
    · exact absurd negative target.not_gt
  | positive => exact ⟨w, denotes⟩

end Identity

namespace CheckedQuantity

/-- A conversion between positive scales, by a factor that is finite and other than zero, keeps the
order of two quantities in one unit or makes them equal. Equal ones stay equal, and where there is no
order, because of a NaN, there is none afterwards. -/
theorem convert_compare (x y : CheckedQuantity) (target : Identity)
    (unit : x.identity = y.identity) (dimension : x.identity.dimension = target.dimension)
    (source_pos : 0 < x.identity.ratio.value) (target_pos : 0 < target.ratio.value)
    (finite : (x.identity.factorTo target).isFinite)
    (nonzero : (x.identity.factorTo target == 0) = false) :
    ∃ before after x' y',
      x.compare y = .accept before ∧ x.convert target = .accept x' ∧
      y.convert target = .accept y' ∧ x'.compare y' = .accept after ∧
      (before = some .lt → after = some .lt ∨ after = some .eq) ∧
      (before = some .gt → after = some .gt ∨ after = some .eq) ∧
      (before = some .eq → after = some .eq) ∧
      (before = none → after = none) := by
  obtain ⟨w, factor⟩ :=
    Identity.exists_denotes_factorTo_positive source_pos target_pos finite nonzero
  have product := compare?_mul factor x.magnitude y.magnitude
  have converted := convert_of_same (a := y) (unit ▸ dimension)
  rw [← unit] at converted
  exact ⟨_, _, _, _, compare_of_same unit, convert_of_same dimension, converted, compare_of_same rfl,
    product⟩

/-- The least length in metres is shorter than the next one, and not longer in kilometres, where both
are below the least double; a NaN has no order in either unit. -/
theorem convert_compare_least :
    let metres (x : Float) : CheckedQuantity := ⟨x, ⟨.one, .zero, .of .length⟩⟩
    let kilometre : Identity := ⟨.one, ⟨3, by decide⟩, .of .length⟩
    let least : CheckedQuantity := metres (.ofBits 1)
    let next : CheckedQuantity := metres (.ofBits 2)
    (0 < least.identity.ratio.value ∧ 0 < kilometre.ratio.value ∧
      (least.identity.factorTo kilometre).isFinite ∧
      (least.identity.factorTo kilometre == 0) = false) ∧
      least.compare next = .accept (some .lt) ∧ (metres nan).compare next = .accept none ∧
      (∃ after x y, least.convert kilometre = .accept x ∧ next.convert kilometre = .accept y ∧
        x.compare y = .accept after ∧ (after = some .lt ∨ after = some .eq)) ∧
      ∃ x y, (metres nan).convert kilometre = .accept x ∧ next.convert kilometre = .accept y ∧
        x.compare y = .accept none := by
  intro metres kilometre least next
  have positive : 0 < least.identity.ratio.value := Rat.num_pos.1 (by decide)
  have positive' : 0 < kilometre.ratio.value := Rat.num_pos.1 (by decide)
  have finite : (least.identity.factorTo kilometre).isFinite := by decide +kernel
  have nonzero : (least.identity.factorTo kilometre == 0) = false := by decide +kernel
  have shorter : least.compare next = .accept (some .lt) := by
    have order : compare? (.ofBits 1) (.ofBits 2) = some .lt := by decide +kernel
    exact (compare_of_same (a := least) (b := next) rfl).trans (congrArg Attempt.accept order)
  have unordered : (metres nan).compare next = .accept none := by
    have order : compare? nan (.ofBits 2) = none := by decide +kernel
    exact (compare_of_same (a := metres nan) (b := next) rfl).trans (congrArg Attempt.accept order)
  refine ⟨⟨positive, positive', finite, nonzero⟩, shorter, unordered, ?_, ?_⟩
  · obtain ⟨before, after, x, y, order, left, right, order', less, _⟩ :=
      convert_compare least next kilometre rfl rfl positive positive' finite nonzero
    cases order.symm.trans shorter
    exact ⟨after, x, y, left, right, order', less rfl⟩
  · obtain ⟨before, after, x, y, order, left, right, order', _, _, _, none⟩ :=
      convert_compare (metres nan) next kilometre rfl rfl positive positive' finite nonzero
    cases order.symm.trans unordered
    cases none rfl
    exact ⟨x, y, left, right, order'⟩

end CheckedQuantity

end Metrology
