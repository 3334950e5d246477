import Mathlib
import Metrology.Magnitude

/-!
# The parts of a double

A finite double other than zero is a sign, a mantissa and an exponent in a fixed range
(`IsBinary64`). Taking a double apart and packing the parts again changes nothing, and the parts
that are packed are the parts that are found (`pack_of_unpack`, `unpack_pack`).
-/

namespace Metrology.Magnitude

open Float.Model Float.Model.UnpackedFloat

/-- The mantissa and the exponent of a finite double other than zero: the mantissa fills 53 bits
unless the exponent is the least one. -/
structure IsBinary64 (m : Nat) (e : Int) : Prop where
  pos : 0 < m
  lt : m < 2 ^ 53
  least : -1074 ≤ e
  greatest : e ≤ 971
  normal : 2 ^ 52 ≤ m ∨ e = -1074

variable {m : Nat} {e : Int} {s : Sign}

/-! ## Bit fields -/

lemma ofBitVec_toBitVec (s : Sign) : Sign.ofBitVec s.toBitVec = s := by
  cases s <;> rfl

lemma toBitVec_ofBitVec : ∀ v : BitVec 1, (Sign.ofBitVec v).toBitVec = v := by
  decide

section Fields

variable (b : BitVec 64)

/-- The fields of a word of 64 bits. -/
def signField : BitVec 1 := @unpackSign Format.binary64 b

def exponentField : BitVec 11 := @unpackExponent Format.binary64 b

def mantissaField : BitVec 52 := @unpackMantissa Format.binary64 b

lemma toNat_exponentField : (exponentField b).toNat = b.toNat / 2 ^ 52 % 2 ^ 11 := by
  simp [exponentField, unpackExponent, Nat.shiftRight_eq_div_pow]

lemma toNat_mantissaField : (mantissaField b).toNat = b.toNat % 2 ^ 52 := by
  simp [mantissaField, unpackMantissa]

lemma toNat_signField : (signField b).toNat = b.toNat / 2 ^ 63 := by
  have := b.isLt
  simp [signField, unpackSign, Nat.shiftRight_eq_div_pow]
  omega

lemma packComponents_fields :
    packComponents Format.binary64 (Sign.ofBitVec (signField b)) (exponentField b)
      (mantissaField b) = b := by
  rw [packComponents, toBitVec_ofBitVec]
  simp only [signField, exponentField, mantissaField, unpackSign, unpackExponent, unpackMantissa,
    BitVec.extractLsb]
  ext i hi
  grind

/-- The leading bit of a normal mantissa is not stored. -/
lemma toNat_implicit (v : BitVec 52) : (1#1 ++ v).toNat = 2 ^ 52 + v.toNat := by
  rw [BitVec.toNat_append, ← Nat.shiftLeft_add_eq_or_of_lt v.isLt]
  simp [Nat.shiftLeft_eq]

lemma unpack_eq :
    UnpackedFloat.unpack Format.binary64 b =
      if exponentField b = -1#11 then
        if mantissaField b = 0#52 then .infinity (Sign.ofBitVec (signField b)) else .notANumber
      else if exponentField b = 0#11 then
        if h : mantissaField b = 0#52 then .zero (Sign.ofBitVec (signField b))
        else .finite (Sign.ofBitVec (signField b)) (mantissaField b).toNat
          ((exponentField b).toNat - (1023 + 52) + 1)
          (Nat.pos_of_ne_zero fun zero => h (BitVec.eq_of_toNat_eq zero))
      else
        .finite (Sign.ofBitVec (signField b)) (1#1 ++ mantissaField b).toNat
          ((exponentField b).toNat - (1023 + 52)) (by simp [toNat_implicit]) :=
  rfl

end Fields

/-! ## Taking apart and packing -/

/-- Whether the fields of a word spell a finite number other than zero. -/
def Spells (b : BitVec 64) (m : Nat) (e : Int) : Prop :=
  ((exponentField b).toNat = 0 ∧ 0 < m ∧ m = (mantissaField b).toNat ∧ e = -1074) ∨
    (0 < (exponentField b).toNat ∧ (exponentField b).toNat < 2047 ∧
      m = 2 ^ 52 + (mantissaField b).toNat ∧ e = (exponentField b).toNat - 1075)

variable {b c : BitVec 64}

lemma Spells.isBinary64 (spells : Spells b m e) : IsBinary64 m e := by
  have bound := (mantissaField b).isLt
  rcases spells with ⟨_, pos, value, rfl⟩ | ⟨pos, lt, rfl, rfl⟩
  · exact ⟨pos, by omega, by omega, by omega, .inr rfl⟩
  · exact ⟨by omega, by omega, by omega, by omega, .inl (by omega)⟩

/-- A word is its sign and the number that it spells. -/
lemma Spells.unique (spells_b : Spells b m e) (spells_c : Spells c m e)
    (sign : signField b = signField c) : b = c := by
  have bound_b := (mantissaField b).isLt
  have bound_c := (mantissaField c).isLt
  have exponent : (exponentField b).toNat = (exponentField c).toNat := by
    rcases spells_b with ⟨_, _, _, _⟩ | ⟨_, _, _, _⟩ <;>
      rcases spells_c with ⟨_, _, _, _⟩ | ⟨_, _, _, _⟩ <;> omega
  have mantissa : (mantissaField b).toNat = (mantissaField c).toNat := by
    rcases spells_b with ⟨_, _, _, _⟩ | ⟨_, _, _, _⟩ <;>
      rcases spells_c with ⟨_, _, _, _⟩ | ⟨_, _, _, _⟩ <;> omega
  rw [← packComponents_fields b, ← packComponents_fields c, sign, BitVec.eq_of_toNat_eq exponent,
    BitVec.eq_of_toNat_eq mantissa]

lemma spells_of_unpack {pos : 0 < m}
    (unpacked : UnpackedFloat.unpack Format.binary64 b = .finite s m e pos) :
    s = Sign.ofBitVec (signField b) ∧ Spells b m e := by
  have bound := (exponentField b).isLt
  rw [unpack_eq] at unpacked
  split at unpacked
  · split at unpacked <;> cases unpacked
  rename_i special
  have not_special : (exponentField b).toNat ≠ 2047 :=
    fun all => special (BitVec.eq_of_toNat_eq all)
  split at unpacked
  · rename_i zero
    have least : (exponentField b).toNat = 0 := by
      rw [zero]
      rfl
    split at unpacked
    · cases unpacked
    · cases unpacked
      exact ⟨rfl, .inl ⟨least, pos, rfl, by omega⟩⟩
  · rename_i zero
    have not_zero : (exponentField b).toNat ≠ 0 := fun none => zero (BitVec.eq_of_toNat_eq none)
    cases unpacked
    exact ⟨rfl, .inr ⟨by omega, by omega, toNat_implicit _, rfl⟩⟩

lemma unpack_of_spells (spells : Spells b m e) (pos : 0 < m) :
    UnpackedFloat.unpack Format.binary64 b = .finite (Sign.ofBitVec (signField b)) m e pos := by
  rw [unpack_eq]
  rcases spells with ⟨least, _, rfl, rfl⟩ | ⟨positive, lt, rfl, rfl⟩
  · have zero : exponentField b = 0#11 := BitVec.eq_of_toNat_eq least
    have nonzero : mantissaField b ≠ 0#52 := fun none => by
      rw [none] at pos
      exact Nat.lt_irrefl 0 pos
    rw [if_neg (by rw [zero]; decide), if_pos zero, dif_neg nonzero]
    simp only [least]
    rfl
  · have not_special : exponentField b ≠ -1#11 := fun special => by
      rw [special] at lt
      exact absurd lt (by decide)
    have not_zero : exponentField b ≠ 0#11 := fun zero => by
      rw [zero] at positive
      exact Nat.lt_irrefl 0 positive
    rw [if_neg not_special, if_neg not_zero]
    simp only [toNat_implicit]
    rfl

lemma zero_of_unpack (unpacked : UnpackedFloat.unpack Format.binary64 b = .zero s) :
    s = Sign.ofBitVec (signField b) ∧ exponentField b = 0#11 ∧ mantissaField b = 0#52 := by
  rw [unpack_eq] at unpacked
  split at unpacked
  · split at unpacked <;> cases unpacked
  split at unpacked
  · split at unpacked
    · cases unpacked
      exact ⟨rfl, ‹_›, ‹_›⟩
    · cases unpacked
  · cases unpacked

lemma infinity_of_unpack (unpacked : UnpackedFloat.unpack Format.binary64 b = .infinity s) :
    s = Sign.ofBitVec (signField b) ∧ exponentField b = -1#11 ∧ mantissaField b = 0#52 := by
  rw [unpack_eq] at unpacked
  split at unpacked
  · split at unpacked
    · cases unpacked
      exact ⟨rfl, ‹_›, ‹_›⟩
    · cases unpacked
  split at unpacked
  · split at unpacked <;> cases unpacked
  · cases unpacked

lemma notANumber_of_unpack (unpacked : UnpackedFloat.unpack Format.binary64 b = .notANumber) :
    exponentField b = -1#11 ∧ mantissaField b ≠ 0#52 := by
  rw [unpack_eq] at unpacked
  split at unpacked
  · split at unpacked
    · cases unpacked
    · exact ⟨‹_›, ‹_›⟩
  split at unpacked
  · split at unpacked <;> cases unpacked
  · cases unpacked

section Components

variable (s : Sign) (exponent : BitVec 11) (mantissa : BitVec 52)

lemma exponentField_packComponents :
    exponentField (packComponents Format.binary64 s exponent mantissa) = exponent :=
  unpackExponent_packComponents

lemma mantissaField_packComponents :
    mantissaField (packComponents Format.binary64 s exponent mantissa) = mantissa :=
  unpackMantissa_packComponents

/-- The two other fields are in the library, the sign is not. -/
lemma unpackSign_packComponents (spec : Format) (exponent : BitVec spec.exponentBits)
    (mantissa : BitVec spec.mantissaBitsWithoutImplicit) :
    unpackSign (packComponents spec s exponent mantissa) = s.toBitVec := by
  apply BitVec.eq_of_getLsbD_eq
  intro i only
  obtain rfl : i = 0 := by omega
  simp [unpackSign, packComponents, BitVec.getLsbD_append, BitVec.getElem_append]

lemma signField_packComponents :
    signField (packComponents Format.binary64 s exponent mantissa) = s.toBitVec :=
  unpackSign_packComponents _ _ _ _

end Components

/-- The fields of a packed number spell it. -/
lemma pack_spells (finite : IsBinary64 m e) (s : Sign) :
    let packed := UnpackedFloat.pack Format.binary64 (.finite s m e finite.pos)
    Spells packed m e ∧ signField packed = s.toBitVec := by
  intro packed
  obtain ⟨pos, lt, least, greatest, normal⟩ := finite
  have in_range : ¬2 ^ 11 ≤ (e + 1023 + 52).toNat + 1 := by omega
  -- the two branches of packing, with the constants of the format in place
  have packed_eq : packed =
      if m.log2 + 1 = 53 then
        packComponents Format.binary64 s (BitVec.ofNat 11 (e + 1023 + 52).toNat) (BitVec.ofNat 52 m)
      else packComponents Format.binary64 s 0#11 (BitVec.ofNat 52 m) :=
    if_neg in_range
  have mantissa : (BitVec.ofNat 52 m).toNat = m % 2 ^ 52 := BitVec.toNat_ofNat m 52
  by_cases leading : 2 ^ 52 ≤ m
  · have log : m.log2 = 52 := (Nat.log2_eq_iff pos.ne').2 ⟨leading, lt⟩
    have exponent : (BitVec.ofNat 11 (e + 1023 + 52).toNat).toNat = (e + 1023 + 52).toNat := by
      rw [BitVec.toNat_ofNat]
      omega
    rw [packed_eq, if_pos (by rw [log]), Spells, exponentField_packComponents,
      mantissaField_packComponents, mantissa, exponent]
    exact ⟨.inr ⟨by omega, by omega, by omega, by omega⟩, signField_packComponents _ _ _⟩
  · have log : m.log2 < 52 := (Nat.log2_lt pos.ne').2 (by omega)
    rw [packed_eq, if_neg (by omega), Spells, exponentField_packComponents,
      mantissaField_packComponents, mantissa]
    exact ⟨.inl ⟨rfl, pos, by omega, normal.resolve_left leading⟩, signField_packComponents _ _ _⟩

/-- The parts that are packed are found again. -/
theorem unpack_pack (finite : IsBinary64 m e) (s : Sign) :
    (Float.Model.pack (.finite s m e finite.pos)).unpack = .finite s m e finite.pos := by
  obtain ⟨spells, sign⟩ := pack_spells finite s
  have unpacked := unpack_of_spells spells finite.pos
  rwa [sign, ofBitVec_toBitVec] at unpacked

/-- A finite number is packed from the parts that are found in it. -/
theorem pack_of_unpack {f : Float.Model} {pos : 0 < m} (unpacked : f.unpack = .finite s m e pos) :
    Float.Model.pack (.finite s m e pos) = f := by
  obtain ⟨sign, spells⟩ := spells_of_unpack unpacked
  obtain ⟨spells', sign'⟩ := pack_spells spells.isBinary64 s
  have same : UnpackedFloat.pack Format.binary64 (.finite s m e pos) = f.toBits.toBitVec := by
    apply spells'.unique spells
    rw [sign', sign, toBitVec_ofBitVec]
  obtain ⟨bits, valid⟩ := f
  simp only [Float.Model.pack, same]

theorem pack_of_unpack_zero {f : Float.Model} (unpacked : f.unpack = .zero s) :
    Float.Model.pack (.zero s) = f := by
  obtain ⟨sign, exponent, mantissa⟩ := zero_of_unpack unpacked
  have same : UnpackedFloat.pack Format.binary64 (.zero s) = f.toBits.toBitVec := by
    rw [← packComponents_fields f.toBits.toBitVec, exponent, mantissa, ← sign]
    rfl
  obtain ⟨bits, valid⟩ := f
  simp only [Float.Model.pack, same]

theorem pack_of_unpack_infinity {f : Float.Model} (unpacked : f.unpack = .infinity s) :
    Float.Model.pack (.infinity s) = f := by
  obtain ⟨sign, exponent, mantissa⟩ := infinity_of_unpack unpacked
  have same : UnpackedFloat.pack Format.binary64 (.infinity s) = f.toBits.toBitVec := by
    rw [← packComponents_fields f.toBits.toBitVec, exponent, mantissa, ← sign]
    rfl
  obtain ⟨bits, valid⟩ := f
  simp only [Float.Model.pack, same]

theorem pack_of_unpack_notANumber {f : Float.Model} (unpacked : f.unpack = .notANumber) :
    Float.Model.pack .notANumber = f := by
  obtain ⟨exponent, mantissa⟩ := notANumber_of_unpack unpacked
  have same : UnpackedFloat.pack Format.binary64 .notANumber = f.toBits.toBitVec :=
    (f.valid.eq_packedNaN exponent mantissa).symm
  obtain ⟨bits, valid⟩ := f
  simp only [Float.Model.pack, same]

/-- The sign bit is set for negative numbers, negative zero included. -/
lemma isNegative_iff {x : Float}
    (sign : s = Sign.ofBitVec (signField x.toModel.toBits.toBitVec)) :
    isNegative x ↔ s = .negative := by
  have top : isNegative x ↔ (signField x.toModel.toBits.toBitVec).toNat = 1 := by
    have bound := x.toModel.toBits.toBitVec.isLt
    rw [toNat_signField]
    show decide (9223372036854775808 ≤ x.toModel.toBits.toBitVec.toNat) = true ↔ _
    rw [decide_eq_true_eq]
    omega
  rw [top, sign]
  rcases BitVec.eq_zero_or_eq_one (signField x.toModel.toBits.toBitVec) with zero | one
  · rw [zero]
    exact ⟨nofun, nofun⟩
  · rw [one]
    exact ⟨fun _ => rfl, fun _ => rfl⟩

end Metrology.Magnitude
