import Metrology.Proofs.CheckedQuantity.Outcome
import Metrology.Proofs.Unit.Evaluation

/-!
# Calculations in known units

A calculation is an expression over quantities whose units are known, nested to any depth; its index
is the unit of the result. It can be carried out in two ways: on quantities that leave the unit to
the type, or on quantities that carry it along and check it at every step. Main statement: both agree,
so a calculation that is well formed is never refused.

The induction is on the calculation. It goes through because the identity of a composite unit, which
is computed from its expression, is the one that the checked operation composes from the operands.
-/

namespace Metrology

/-- A calculation whose result is in the unit `u`. Every unit in it has an identity. -/
inductive Calculation : UnitExpr → Type where
  | leaf {u : UnitExpr} (hu : u.Evaluates) (x : Float) : Calculation u
  | add {u : UnitExpr} (p q : Calculation u) : Calculation u
  | sub {u : UnitExpr} (p q : Calculation u) : Calculation u
  | neg {u : UnitExpr} (p : Calculation u) : Calculation u
  | scale {u : UnitExpr} (p : Calculation u) (k : Float) : Calculation u
  | unscale {u : UnitExpr} (p : Calculation u) (k : Float) : Calculation u
  | mul {u v : UnitExpr} (p : Calculation u) (q : Calculation v)
      (h : (UnitExpr.product u v).Evaluates) : Calculation (.product u v)
  | div {u v : UnitExpr} (p : Calculation u) (q : Calculation v)
      (h : (UnitExpr.quotient u v).Evaluates) : Calculation (.quotient u v)
  | pow {u : UnitExpr} (p : Calculation u) (n : Exponent)
      (h : (UnitExpr.power u n).Evaluates) : Calculation (.power u n)
  | convert {u : UnitExpr} (p : Calculation u) (target : UnitExpr) (ht : target.Evaluates)
      (same : u.dimension = target.dimension) : Calculation target
  /-- Goes on in another spelling of the same unit. -/
  | respell {u : UnitExpr} (p : Calculation u) (target : UnitExpr) (hu : u.Evaluates)
      (ht : target.Evaluates) (same : u.dimension = target.dimension)
      (spelling : u.identity hu = target.identity ht) : Calculation target

namespace Calculation

/-- The unit of a calculation has an identity. -/
theorem evaluates {u : UnitExpr} : Calculation u → u.Evaluates
  | leaf hu _ => hu
  | add p _ | sub p _ | neg p | scale p _ | unscale p _ => p.evaluates
  | mul _ _ h | div _ _ h | pow _ _ h => h
  | convert _ _ ht _ | respell _ _ _ ht _ _ => ht

/-- Carries a calculation out with units left to the type. -/
def run {u : UnitExpr} : Calculation u → Quantity u
  | leaf _ x => ⟨x⟩
  | add p q => p.run + q.run
  | sub p q => p.run - q.run
  | neg p => -p.run
  | scale p k => p.run.scale k
  | unscale p k => p.run.unscale k
  | mul p q _ => p.run.mul q.run
  | div p q _ => p.run.div q.run
  | pow p n _ => p.run.pow n
  | convert p target ht same => p.run.convert target p.evaluates ht same
  | respell p target hu ht same spelling => p.run.respell target hu ht same spelling

/-- Carries a calculation out with units checked on the way. Another spelling of a unit is nothing to
check, since the identity that is carried does not show it. -/
def runChecked {u : UnitExpr} : Calculation u → Checked CheckedQuantity
  | leaf (u := u) hu x => .accept (.ofQuantity (⟨x⟩ : Quantity u) hu)
  | add p q => p.runChecked.andThen fun a => q.runChecked.andThen fun b => a.add b
  | sub p q => p.runChecked.andThen fun a => q.runChecked.andThen fun b => a.sub b
  | neg p => p.runChecked.map (·.neg)
  | scale p k => p.runChecked.map (·.scale k)
  | unscale p k => p.runChecked.map (·.unscale k)
  | mul p q _ => p.runChecked.andThen fun a => q.runChecked.andThen fun b => a.mul b
  | div p q _ => p.runChecked.andThen fun a => q.runChecked.andThen fun b => a.div b
  | pow p n _ => p.runChecked.andThen fun a => a.pow n
  | convert p target ht _ => p.runChecked.andThen fun a => a.convert (target.identity ht)
  | respell p _ _ _ _ _ => p.runChecked

open CheckedQuantity in
/-- The checked run accepts, with the quantity that the other run has. -/
theorem runChecked_eq_accept {u : UnitExpr} (p : Calculation u) :
    p.runChecked = .accept (ofQuantity p.run p.evaluates) := by
  induction p with
  | leaf hu x => rfl
  | add p q ihp ihq =>
    simp only [runChecked, ihp, ihq, Attempt.accept_andThen]
    exact add_of_same rfl
  | sub p q ihp ihq =>
    simp only [runChecked, ihp, ihq, Attempt.accept_andThen]
    exact sub_of_same rfl
  | neg p ih =>
    rw [runChecked, ih]
    rfl
  | scale p k ih =>
    rw [runChecked, ih]
    rfl
  | unscale p k ih =>
    rw [runChecked, ih]
    rfl
  | mul p q h ihp ihq =>
    simp only [runChecked, ihp, ihq, Attempt.accept_andThen]
    exact compose_of_some (UnitExpr.identity_product p.evaluates q.evaluates h)
  | div p q h ihp ihq =>
    simp only [runChecked, ihp, ihq, Attempt.accept_andThen]
    exact compose_of_some (UnitExpr.identity_quotient p.evaluates q.evaluates h)
  | pow p n h ih =>
    simp only [runChecked, ih, Attempt.accept_andThen]
    exact compose_of_some (UnitExpr.identity_power p.evaluates h)
  | convert p target ht same ih =>
    simp only [runChecked, ih, Attempt.accept_andThen]
    apply convert_of_same
    -- formal dimensions agree by type, stored ones because each denotes its formal one
    apply Dimension.formal_injective
    rw [ofQuantity, UnitExpr.dimension_identity, UnitExpr.dimension_identity, same]
  | respell p target hu ht same spelling ih =>
    rw [runChecked, ih]
    simp only [ofQuantity, run, Quantity.respell, spelling]

/-- Checking units while a calculation runs changes nothing: it is never refused, it records nothing,
its magnitude is the same double, its identity is that of the unit of the result, and the view in
that unit gives back the result. -/
theorem runChecked_agrees {u : UnitExpr} (p : Calculation u) :
    ∃ q : CheckedQuantity, p.runChecked = .accept q ∧
      q.magnitude = p.run.magnitude ∧
      q.identity = u.identity p.evaluates ∧
      q.view u p.evaluates = .accept p.run := by
  refine ⟨.ofQuantity p.run p.evaluates, p.runChecked_eq_accept, rfl, rfl, ?_⟩
  exact CheckedQuantity.view_of_same p.evaluates rfl

end Calculation

end Metrology
