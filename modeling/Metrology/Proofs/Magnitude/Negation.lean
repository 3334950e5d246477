import Mathlib
import Metrology.Proofs.Magnitude.Arithmetic

/-!
# Negated doubles

Negation turns the sign bit of a number over and leaves the other bits as they are (`toBits_neg`).
Main statement: it can be drawn out of either operand of a product or a quotient, since rounding
treats both signs alike (`neg_of_mul`, `neg_of_div`). This holds of every double; there is one NaN
only, which is its own negation.
-/

namespace Metrology.Magnitude

open Float.Model Float.Model.UnpackedFloat

variable {x y : Float} {s t : Sign} {u : UnpackedFloat}

/-! ## The sign bit -/

/-- The word with the sign bit alone. -/
def signBit : UInt64 := 9223372036854775808

lemma toBitVec_neg (s : Sign) : (-s).toBitVec = s.toBitVec ^^^ 1#1 := by
  cases s <;> rfl

lemma packComponents_neg (s : Sign) (exponent : BitVec 11) (mantissa : BitVec 52) :
    packComponents Format.binary64 (-s) exponent mantissa
      = packComponents Format.binary64 s exponent mantissa ^^^ signBit.toBitVec := by
  have parts : signBit.toBitVec = 1#1 ++ 0#11 ++ 0#52 := by decide
  have joined : ∀ v : BitVec 1, (v ^^^ 1#1) ++ exponent ++ mantissa
      = (v ++ exponent ++ mantissa) ^^^ (1#1 ++ 0#11 ++ 0#52) := by
    intro v
    rw [BitVec.xor_append, BitVec.xor_append, BitVec.xor_zero, BitVec.xor_zero]
  rw [parts, packComponents, toBitVec_neg]
  exact joined s.toBitVec

/-- Whatever is packed, negation changes nothing but the sign field. -/
lemma pack_neg (value : u ≠ .notANumber) :
    ∃ s exponent mantissa,
      UnpackedFloat.pack Format.binary64 u = packComponents Format.binary64 s exponent mantissa ∧
      UnpackedFloat.pack Format.binary64 u.neg
        = packComponents Format.binary64 (-s) exponent mantissa := by
  cases u with
  | notANumber => exact absurd rfl value
  | zero s => exact ⟨s, 0, 0, rfl, rfl⟩
  | infinity s => exact ⟨s, -1, 0, rfl, rfl⟩
  | finite s m e pos =>
    simp only [UnpackedFloat.neg, UnpackedFloat.pack]
    split
    · exact ⟨s, -1, 0, rfl, rfl⟩
    · split
      · exact ⟨s, _, _, rfl, rfl⟩
      · exact ⟨s, _, _, rfl, rfl⟩

/-- The negation is found when a packed negation is taken apart. -/
lemma unpack_packComponents_neg (s : Sign) (exponent : BitVec 11) (mantissa : BitVec 52) :
    UnpackedFloat.unpack Format.binary64 (packComponents Format.binary64 (-s) exponent mantissa)
      = (UnpackedFloat.unpack Format.binary64
          (packComponents Format.binary64 s exponent mantissa)).neg := by
  rw [unpack_eq, unpack_eq]
  simp only [exponentField_packComponents, mantissaField_packComponents, signField_packComponents,
    ofBitVec_toBitVec]
  split
  · split <;> rfl
  · split
    · split <;> rfl
    · rfl

lemma unpack_pack_neg (u : UnpackedFloat) :
    (Float.Model.pack u.neg).unpack = (Float.Model.pack u).unpack.neg := by
  by_cases value : u = .notANumber
  · rw [value]
    rfl
  · obtain ⟨s, exponent, mantissa, packed, negated⟩ := pack_neg value
    show UnpackedFloat.unpack Format.binary64 (UnpackedFloat.pack Format.binary64 u.neg)
      = (UnpackedFloat.unpack Format.binary64 (UnpackedFloat.pack Format.binary64 u)).neg
    rw [packed, negated, unpack_packComponents_neg]

/-- A double is packed from what it unpacks to. -/
lemma pack_unpack (f : Float.Model) : .pack f.unpack = f := by
  cases unpacked : f.unpack with
  | notANumber => exact pack_of_unpack_notANumber unpacked
  | zero s => exact pack_of_unpack_zero unpacked
  | infinity s => exact pack_of_unpack_infinity unpacked
  | finite s m e pos => exact pack_of_unpack unpacked

/-- Packing and negation can be exchanged. -/
lemma neg_pack (u : UnpackedFloat) : Float.Model.neg (.pack u) = .pack u.neg := by
  rw [← pack_unpack (.pack u.neg), unpack_pack_neg]
  rfl

lemma unpack_neg (x : Float) : (-x).toModel.unpack = x.toModel.unpack.neg := by
  show (Float.Model.pack x.toModel.unpack.neg).unpack = _
  rw [unpack_pack_neg, pack_unpack]

/-- Negation turns the sign bit over. -/
theorem toBits_neg (number : x.isNaN = false) : (-x).toBits = x.toBits ^^^ signBit := by
  have value : x.toModel.unpack ≠ .notANumber := by
    intro absent
    have nan : x.isNaN = x.toModel.unpack.isNaN := rfl
    rw [nan, absent] at number
    cases number
  obtain ⟨s, exponent, mantissa, packed, negated⟩ := pack_neg value
  have same : x.toBits.toBitVec = UnpackedFloat.pack Format.binary64 x.toModel.unpack :=
    congrArg (·.toBits.toBitVec) (pack_unpack x.toModel).symm
  apply UInt64.toBitVec_inj.1
  show UnpackedFloat.pack Format.binary64 x.toModel.unpack.neg
    = x.toBits.toBitVec ^^^ signBit.toBitVec
  rw [same, packed, negated, packComponents_neg]

/-! ## Products and quotients -/

lemma sign_neg (s t : Sign) : s * -t = -(s * t) ∧ -s * t = -(s * t) := by
  cases s <;> cases t <;> exact ⟨rfl, rfl⟩

/-- Rounding is the same for both signs. -/
lemma roundWithAccuracy_neg (s : Sign) (m : Nat) (e : Int) (acc : Accuracy) :
    roundWithAccuracy Format.binary64 (-s) m e acc
      = (roundWithAccuracy Format.binary64 s m e acc).neg := by
  simp only [roundWithAccuracy]
  split <;> rfl

/-- Whether an operation on doubles that are taken apart negates its result with either operand. -/
def DrawsOut (op : UnpackedFloat → UnpackedFloat → UnpackedFloat) : Prop :=
  ∀ a b, op a b.neg = (op a b).neg ∧ op a.neg b = (op a b).neg

lemma drawsOut_mul : DrawsOut (UnpackedFloat.mul Format.binary64) := by
  intro a b
  cases a <;> cases b <;>
    simp [UnpackedFloat.mul, UnpackedFloat.neg, sign_neg, roundWithAccuracy_neg]

lemma drawsOut_div : DrawsOut (UnpackedFloat.div Format.binary64) := by
  intro a b
  cases a <;> cases b <;>
    simp [UnpackedFloat.div, UnpackedFloat.neg, sign_div, sign_neg, roundWithAccuracy_neg]

/-- What holds of doubles that are taken apart holds of those that are packed again. -/
lemma DrawsOut.packed {op : UnpackedFloat → UnpackedFloat → UnpackedFloat} (draws : DrawsOut op)
    {f : Float → Float → Float}
    (parts : ∀ x y, (f x y).toModel = .pack (op x.toModel.unpack y.toModel.unpack)) (x y : Float) :
    f x (-y) = -f x y ∧ f (-x) y = -f x y := by
  obtain ⟨right, left⟩ := draws x.toModel.unpack y.toModel.unpack
  have outcome : (-f x y).toModel = .pack (op x.toModel.unpack y.toModel.unpack).neg := by
    rw [← neg_pack, ← parts]
    rfl
  refine ⟨congrArg Float.ofModel ?_, congrArg Float.ofModel ?_⟩
  · rw [parts, unpack_neg, right, ← outcome]
    rfl
  · rw [parts, unpack_neg, left, ← outcome]
    rfl

/-- Negation can be drawn out of either factor of a product. -/
theorem neg_of_mul (x y : Float) : x * -y = -(x * y) ∧ -x * y = -(x * y) :=
  drawsOut_mul.packed (fun _ _ => toModel_mul rfl rfl) x y

/-- Negation can be drawn out of either operand of a quotient. -/
theorem neg_of_div (x y : Float) : x / -y = -(x / y) ∧ -x / y = -(x / y) :=
  drawsOut_div.packed (fun _ _ => toModel_div rfl rfl) x y

lemma unpacked_neg_neg (u : UnpackedFloat) : u.neg.neg = u := by
  cases u with
  | notANumber => rfl
  | zero s => cases s <;> rfl
  | infinity s => cases s <;> rfl
  | finite s m e pos => cases s <;> rfl

theorem neg_of_neg (x : Float) : - -x = x := by
  have outcome : (- -x).toModel = x.toModel := by
    show Float.Model.pack (-x).toModel.unpack.neg = _
    rw [unpack_neg, unpacked_neg_neg, pack_unpack]
  exact congrArg Float.ofModel outcome

end Metrology.Magnitude
