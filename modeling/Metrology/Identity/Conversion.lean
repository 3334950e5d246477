import Metrology.Identity
import Metrology.Magnitude

/-!
# Conversion factors

The factor from one unit to another is the quotient of the ratios times a power of ten. The ratios
are divided exactly where the quotient fits; the power of ten multiplies the numerator or the
denominator, whichever keeps it an integer. Beyond four hundred powers of ten the factor has long
become zero or infinite, so the shift stops there.
-/

namespace Metrology

namespace Ratio

/-- The nearest doubles to numerator and denominator of the reduced quotient; where that does not
fit, the products of the parts as doubles. -/
def quotientParts (a b : Ratio) : Float × Float :=
  match a.div? b with
  | some quotient => (Float.ofInt quotient.num, Float.ofNat quotient.den)
  | none =>
    (Float.ofInt a.num * Float.ofNat b.den, Float.ofNat a.den * Float.ofInt b.num)

end Ratio

namespace Identity

/-- The largest power of ten that a conversion applies. -/
def maxShift : Int := 400

/-- The power of ten between two identities, kept within `maxShift`. -/
def shift (a b : Identity) : Int :=
  max (-maxShift) (min maxShift (a.exponent.toInt - b.exponent.toInt))

/-- The quotient `num / den` moved by a power of ten. -/
def scaleByTen (num den : Float) (s : Int) : Float :=
  if 0 ≤ s then num * Magnitude.natPower 10 s.toNat / den
  else num / (den * Magnitude.natPower 10 (-s).toNat)

/-- The factor that turns magnitudes in the unit `a` into magnitudes in the unit `b`. -/
def factorTo (a b : Identity) : Float :=
  let (num, den) := a.ratio.quotientParts b.ratio
  scaleByTen num den (a.shift b)

end Identity

end Metrology
