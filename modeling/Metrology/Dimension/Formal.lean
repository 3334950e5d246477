import Metrology.Dimension

/-!
# Formal dimensions

The dimension of a unit expression is fixed before any machine word is involved: its exponents are
integers without bounds, so products, quotients and powers always exist. `toDimension?` is the
passage to stored exponents.
-/

namespace Metrology

/-- Exponents of the base quantities, without bounds. -/
structure FormalDimension where
  exponents : PerBase Int
deriving DecidableEq

namespace FormalDimension

def exponent (d : FormalDimension) (q : BaseQuantity) : Int :=
  d.exponents.get q

@[ext] theorem ext {a b : FormalDimension} (h : ∀ q, a.exponent q = b.exponent q) : a = b := by
  cases a
  cases b
  exact congrArg mk (PerBase.ext_get h)

def dimensionless : FormalDimension :=
  ⟨.ofFn fun _ => 0⟩

instance : Inhabited FormalDimension := ⟨dimensionless⟩

/-- The dimension of one base quantity. -/
def of (base : BaseQuantity) : FormalDimension :=
  ⟨.ofFn fun q => if q = base then 1 else 0⟩

protected def mul (a b : FormalDimension) : FormalDimension :=
  ⟨.ofFn fun q => a.exponent q + b.exponent q⟩

protected def div (a b : FormalDimension) : FormalDimension :=
  ⟨.ofFn fun q => a.exponent q - b.exponent q⟩

protected def pow (d : FormalDimension) (n : Int) : FormalDimension :=
  ⟨.ofFn fun q => d.exponent q * n⟩

instance : Mul FormalDimension := ⟨FormalDimension.mul⟩

instance : Div FormalDimension := ⟨FormalDimension.div⟩

instance : HPow FormalDimension Int FormalDimension := ⟨FormalDimension.pow⟩

@[simp] theorem exponent_mul (a b : FormalDimension) (q : BaseQuantity) :
    (a * b).exponent q = a.exponent q + b.exponent q :=
  PerBase.get_ofFn _ q

@[simp] theorem exponent_div (a b : FormalDimension) (q : BaseQuantity) :
    (a / b).exponent q = a.exponent q - b.exponent q :=
  PerBase.get_ofFn _ q

@[simp] theorem exponent_pow (d : FormalDimension) (n : Int) (q : BaseQuantity) :
    (d ^ n).exponent q = d.exponent q * n :=
  PerBase.get_ofFn _ q

/-- The stored form, if every exponent fits. -/
def toDimension? (d : FormalDimension) : Option Dimension :=
  (PerBase.ofFn? fun q => Exponent.ofInt? (d.exponent q)).map Dimension.mk

end FormalDimension

end Metrology
