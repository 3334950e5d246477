import Metrology.Exponent
import Metrology.Fault
import Metrology.Iteration
import Metrology.Word

/-!
# Ratios

The rational factor of a unit: a fraction in lowest terms whose numerator fits a signed word of
64 bits and whose denominator is positive and fits the same word. `value` is the rational number
that it denotes. Every operation forms the exact fraction of unbounded integers first, brings it to
lowest terms and only then asks whether it fits, so nothing is refused on the way to a result that
fits.
-/

namespace Metrology

/-- A fraction in lowest terms that fits words of 64 bits. -/
structure Ratio where
  num : Int
  den : Nat
  num_range : Fits64 num
  den_pos : 0 < den
  den_lt : den < 9223372036854775808
  reduced : num.natAbs.Coprime den
deriving DecidableEq

namespace Ratio

@[ext] theorem ext {a b : Ratio} (num : a.num = b.num) (den : a.den = b.den) : a = b := by
  cases a
  cases b
  cases num
  cases den
  rfl

/-- The rational number that a ratio denotes. -/
def value (r : Ratio) : Rat :=
  { num := r.num, den := r.den, den_nz := Nat.ne_of_gt r.den_pos, reduced := r.reduced }

theorem value_injective {a b : Ratio} (h : a.value = b.value) : a = b :=
  ext (congrArg Rat.num h) (congrArg Rat.den h)

/-- Numerator and denominator divided by what they share, the denominator's sign moved up. -/
def lowestTerms (num den : Int) : Int × Nat :=
  (den.sign * (num / Int.gcd num den), den.natAbs / Int.gcd num den)

theorem lowestTerms_den_pos {num den : Int} (nonzero : den ≠ 0) : 0 < (lowestTerms num den).2 :=
  Nat.div_pos (Nat.le_of_dvd (Int.natAbs_pos.2 nonzero) (Nat.gcd_dvd_right _ _))
    (Int.gcd_pos_of_ne_zero_right _ nonzero)

theorem natAbs_lowestTerms (num : Int) {den : Int} (nonzero : den ≠ 0) :
    (lowestTerms num den).1.natAbs = num.natAbs / Int.gcd num den := by
  have shared : (Int.gcd num den : Int) ∣ num := Int.gcd_dvd_left ..
  simp only [lowestTerms, Int.natAbs_mul, Int.natAbs_sign_of_ne_zero nonzero, Nat.one_mul]
  rw [Int.natAbs_ediv_of_dvd shared, Int.natAbs_natCast]

theorem lowestTerms_coprime {num den : Int} (nonzero : den ≠ 0) :
    (lowestTerms num den).1.natAbs.Coprime (lowestTerms num den).2 := by
  rw [natAbs_lowestTerms num nonzero]
  exact Nat.coprime_div_gcd_div_gcd (Int.gcd_pos_of_ne_zero_right num nonzero)

/-- The ratio of two integers, if there is one and it fits. -/
def reduce? (num den : Int) : Option Ratio :=
  if nonzero : den = 0 then none
  else
    let low := lowestTerms num den
    if fits : Fits64 low.1 ∧ low.2 < 9223372036854775808 then
      some ⟨low.1, low.2, fits.1, lowestTerms_den_pos nonzero, fits.2, lowestTerms_coprime nonzero⟩
    else none

/-- The ratio of two words of 64 bits, if there is one and it fits. -/
def ofWords? (num den : Int64) : Option Ratio :=
  reduce? num.toInt den.toInt

def one : Ratio := ⟨1, 1, by decide, by decide, by decide, by decide⟩

instance : Inhabited Ratio := ⟨one⟩

def isZero (r : Ratio) : Bool := r.num == 0

/-- The exact product, if it fits. -/
def mul? (a b : Ratio) : Option Ratio :=
  reduce? (a.num * b.num) (a.den * b.den)

/-- The exact quotient, if there is one and it fits. -/
def div? (a b : Ratio) : Option Ratio :=
  reduce? (a.num * b.den) (a.den * b.num)

/-- The reciprocal, if there is one and it fits. -/
def recip? (r : Ratio) : Option Ratio :=
  reduce? r.den r.num

/-- The product of `n` copies, refused as soon as a partial product does not fit. -/
def natPow? (r : Ratio) (n : Nat) : Option Ratio :=
  iterate (·.bind (·.mul? r)) n (some one)

/-- An integer power: for a negative one, the reciprocal is raised. -/
def pow? (r : Ratio) (n : Exponent) : Option Ratio :=
  if n.toInt < 0 then r.recip?.bind (·.natPow? n.toInt.natAbs) else r.natPow? n.toInt.natAbs

def ofWords (num den : Int64) : Except Fault Ratio :=
  Fault.invalidRatio.force (ofWords? num den)

def mul (a b : Ratio) : Except Fault Ratio :=
  Fault.ratioProduct.force (a.mul? b)

def div (a b : Ratio) : Except Fault Ratio :=
  Fault.ratioQuotient.force (a.div? b)

def recip (r : Ratio) : Except Fault Ratio :=
  Fault.ratioReciprocal.force r.recip?

def pow (r : Ratio) (n : Exponent) : Except Fault Ratio :=
  Fault.ratioPower.force (r.pow? n)

/-- The quotient of the two parts, each brought to the nearest double first. -/
def toFloat (r : Ratio) : Float :=
  Float.ofInt r.num / Float.ofNat r.den

/-- The numerator, and the denominator after a slash unless it is one. -/
def text (r : Ratio) : String :=
  if r.den = 1 then r.num.repr else r.num.repr ++ "/" ++ r.den.repr

end Ratio

end Metrology
