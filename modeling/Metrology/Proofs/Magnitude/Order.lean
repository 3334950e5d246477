import Mathlib
import Metrology.Proofs.Magnitude.Accuracy

/-!
# The order of doubles

Doubles other than a NaN have a place among the rational numbers and the two infinities, where the
two zeros share one (`place`). Main statements: comparing two doubles compares their places, and
there is no order exactly if one has no place (`compare?_eq`); and a product with a positive finite
factor keeps the order, although it may bring two doubles together (`compare?_mul`).

The second rests on rounding, which keeps the order of positive numbers (`RoundsTo.mono`): otherwise
both numbers would be at the halfway point of the same two doubles, and that rounds to one of them.
-/

namespace Metrology.Magnitude

open Float.Model Float.Model.UnpackedFloat

variable {x y f : Float} {s t : Sign} {v w r q : ℚ} {m m' : Nat} {e e' : Int}

/-! ## Rounding keeps the order -/

/-- The nearer of two numbers is on the near side of their halfway point. -/
lemma add_le_of_abs_sub_le {a b c : ℚ} (less : b < a) (near : |a - c| ≤ |b - c|) :
    a + b ≤ 2 * c := by
  have squares := sq_le_sq.2 near
  nlinarith

lemma le_add_of_abs_sub_le {a b c : ℚ} (less : b < a) (near : |b - c| ≤ |a - c|) :
    2 * c ≤ a + b := by
  have squares := sq_le_sq.2 near
  nlinarith

/-- A greater number does not round to a smaller double. -/
lemma RoundsTo.mono (rounds : RoundsTo m e r) (canonical : Canonical m e)
    (rounds' : RoundsTo m' e' q) (canonical' : Canonical m' e') (le : r ≤ q) :
    (m : ℚ) * 2 ^ e ≤ m' * 2 ^ e' := by
  by_contra less
  have less := not_le.1 less
  have near := (rounds.closest canonical canonical'.lt canonical'.least less.ne).1
  have near' := (rounds'.closest canonical' canonical.lt canonical.least less.ne').1
  have above := add_le_of_abs_sub_le less near
  have below := le_add_of_abs_sub_le less near'
  obtain rfl : r = q := by linarith
  obtain ⟨rfl, rfl⟩ := rounds.unique canonical rounds' canonical'
  exact less.ne rfl

/-- The doubles of a greater exponent are greater. -/
lemma Canonical.lt_of_exponent_lt (canonical : Canonical m e) (canonical' : Canonical m' e')
    (lt : e < e') : (m : ℚ) * 2 ^ e < m' * 2 ^ e' := by
  have full : 2 ^ 52 ≤ m' := canonical'.normal.resolve_right (by have := canonical.least; omega)
  have m_lt : (m : ℚ) < 2 ^ 53 := by exact_mod_cast canonical.lt
  have m'_ge : (2 : ℚ) ^ 52 ≤ m' := by exact_mod_cast full
  calc (m : ℚ) * 2 ^ e < 2 ^ 53 * 2 ^ e := by gcongr
    _ = 2 ^ 52 * 2 ^ (e + 1) := by
        rw [zpow_add_one₀ two_ne_zero]
        ring
    _ ≤ m' * 2 ^ e' := by
        gcongr
        · norm_num
        · omega

/-- The exponents are compared first, the mantissas where these agree. -/
lemma Canonical.compare_eq (canonical : Canonical m e) (canonical' : Canonical m' e') :
    (compare e e').then (compare m m') = compare ((m : ℚ) * 2 ^ e) (m' * 2 ^ e') := by
  rcases lt_trichotomy e e' with lt | rfl | gt
  · rw [compare_lt_iff_lt.2 lt, compare_lt_iff_lt.2 (canonical.lt_of_exponent_lt canonical' lt)]
    rfl
  · have scale := two_zpow_pos e
    rw [compare_eq_iff_eq.2 rfl]
    show compare m m' = _
    rcases lt_trichotomy m m' with lt | rfl | gt
    · have less : (m : ℚ) * 2 ^ e < m' * 2 ^ e := by gcongr
      rw [compare_lt_iff_lt.2 lt, compare_lt_iff_lt.2 less]
    · rw [compare_eq_iff_eq.2 rfl, compare_eq_iff_eq.2 rfl]
    · have greater : (m' : ℚ) * 2 ^ e < m * 2 ^ e := by gcongr
      rw [compare_gt_iff_gt.2 gt, compare_gt_iff_gt.2 greater]
  · rw [compare_gt_iff_gt.2 gt, compare_gt_iff_gt.2 (canonical'.lt_of_exponent_lt canonical gt)]
    rfl

/-! ## Places -/

/-- Where a double stands among the rational numbers and the infinities; a NaN stands nowhere. -/
def place (x : Float) : Option (WithBot (WithTop ℚ)) :=
  match x.toModel.unpack with
  | .notANumber => none
  | .infinity .negative => some ⊥
  | .infinity .positive => some ⊤
  | .zero _ => some 0
  | .finite s m e _ => some ((signed s (m * 2 ^ e) : ℚ) : WithTop ℚ)

lemma canonical_of_unpack {pos : 0 < m} (unpacked : x.toModel.unpack = .finite s m e pos) :
    Canonical m e :=
  (spells_of_unpack unpacked).2.isBinary64.canonical

/-- The places of finite numbers are ordered as these are. -/
lemma compare_coe (a b : ℚ) :
    compare ((a : WithTop ℚ) : WithBot (WithTop ℚ)) ((b : WithTop ℚ) : WithBot (WithTop ℚ)) =
      compare a b := by
  rcases lt_trichotomy a b with lt | rfl | gt
  · rw [compare_lt_iff_lt.2 lt, compare_lt_iff_lt]
    exact_mod_cast lt
  · rw [compare_eq_iff_eq.2 rfl, compare_eq_iff_eq.2 rfl]
  · rw [compare_gt_iff_gt.2 gt, compare_gt_iff_gt]
    exact_mod_cast gt

/-- Negation turns the order around. -/
lemma compare_neg (a b : ℚ) : compare (-a) (-b) = (compare a b).swap := by
  rcases lt_trichotomy a b with lt | rfl | gt
  · rw [compare_lt_iff_lt.2 lt, compare_gt_iff_gt.2 (neg_lt_neg lt)]
    rfl
  · rw [compare_eq_iff_eq.2 rfl, compare_eq_iff_eq.2 rfl]
    rfl
  · rw [compare_gt_iff_gt.2 gt, compare_lt_iff_lt.2 (neg_lt_neg gt)]
    rfl

lemma signed_negative_lt (pos : 0 < v) : signed .negative v < 0 :=
  neg_neg_of_pos pos

lemma lt_signed_positive (pos : 0 < v) : 0 < signed .positive v := pos

/-- Finite numbers other than zero compare by their signs first. -/
lemma compare_finite {pos : 0 < m} {pos' : 0 < m'} (canonical : Canonical m e)
    (canonical' : Canonical m' e') (s t : Sign) :
    UnpackedFloat.compare (.finite s m e pos) (.finite t m' e' pos') =
      some (compare (signed s (m * 2 ^ e)) (signed t (m' * 2 ^ e'))) := by
  have positive : 0 < (m : ℚ) * 2 ^ e := by positivity
  have positive' : 0 < (m' : ℚ) * 2 ^ e' := by positivity
  cases s <;> cases t
  · show some ((compare e e').then (compare m m')).swap = some (compare (-_) (-_))
    rw [canonical.compare_eq canonical', compare_neg]
  · rw [compare_lt_iff_lt.2 ((signed_negative_lt positive).trans (lt_signed_positive positive'))]
    rfl
  · rw [compare_gt_iff_gt.2 ((signed_negative_lt positive').trans (lt_signed_positive positive))]
    rfl
  · show some ((compare e e').then (compare m m')) = some (compare _ _)
    rw [canonical.compare_eq canonical']
    rfl

/-- Taken apart, doubles compare as their places do. -/
lemma compare_unpack (x y : Float) :
    x.toModel.unpack.compare y.toModel.unpack =
      (place x).bind fun p => (place y).map fun q => compare p q := by
  unfold place
  cases left : x.toModel.unpack with
  | notANumber => rfl
  | infinity s =>
    cases right : y.toModel.unpack with
    | notANumber => cases s <;> rfl
    | infinity t => cases s <;> cases t <;> rfl
    | zero t => cases s <;> rfl
    | finite t m e pos => cases s <;> rfl
  | zero s =>
    cases right : y.toModel.unpack with
    | notANumber => rfl
    | infinity t => cases t <;> rfl
    | zero t => rfl
    | finite t m e pos =>
      have positive : 0 < (m : ℚ) * 2 ^ e := by positivity
      show _ = some (compare (((0 : ℚ) : WithTop ℚ) : WithBot (WithTop ℚ)) _)
      rw [compare_coe]
      cases t
      · rw [compare_gt_iff_gt.2 (signed_negative_lt positive)]
        rfl
      · rw [compare_lt_iff_lt.2 (lt_signed_positive positive)]
        rfl
  | finite s m e pos =>
    cases right : y.toModel.unpack with
    | notANumber => rfl
    | infinity t => cases t <;> rfl
    | zero t =>
      have positive : 0 < (m : ℚ) * 2 ^ e := by positivity
      show _ = some (compare _ (((0 : ℚ) : WithTop ℚ) : WithBot (WithTop ℚ)))
      rw [compare_coe]
      cases s
      · rw [compare_lt_iff_lt.2 (signed_negative_lt positive)]
        rfl
      · rw [compare_gt_iff_gt.2 (lt_signed_positive positive)]
        rfl
    | finite t m' e' pos' =>
      rw [compare_finite (canonical_of_unpack left) (canonical_of_unpack right)]
      exact congrArg some (compare_coe _ _).symm

lemma lt_iff (x y : Float) :
    x < y ↔ ((place x).bind fun p => (place y).map fun q => compare p q) = some .lt := by
  rw [← compare_unpack]
  show decide ((x.toModel.unpack.compare y.toModel.unpack == some .lt) = true) = true ↔ _
  rw [decide_eq_true_iff, beq_iff_eq]

lemma beq_iff (x y : Float) :
    (x == y) = true ↔ ((place x).bind fun p => (place y).map fun q => compare p q) = some .eq := by
  rw [← compare_unpack]
  show (x.toModel.unpack.compare y.toModel.unpack == some .eq) = true ↔ _
  rw [beq_iff_eq]

/-- Doubles compare as their places do, and not at all if one has none. -/
theorem compare?_eq (x y : Float) :
    compare? x y = (place x).bind fun p => (place y).map fun q => compare p q := by
  simp only [compare?, lt_iff, beq_iff]
  cases place x with
  | none => cases place y <;> rfl
  | some p =>
    cases place y with
    | none => rfl
    | some q =>
      simp only [Option.bind_some, Option.map_some, Option.some.injEq]
      rcases lt_trichotomy p q with lt | rfl | gt
      · rw [compare_lt_iff_lt.2 lt]
        rfl
      · rw [compare_eq_iff_eq.2 rfl]
        rfl
      · rw [compare_gt_iff_gt.2 gt, compare_lt_iff_lt.2 gt]
        rfl

lemma compare?_eq_some_iff {o : Ordering} :
    compare? x y = some o ↔ ∃ p q, place x = some p ∧ place y = some q ∧ compare p q = o := by
  simp only [compare?_eq, Option.bind_eq_some_iff, Option.map_eq_some_iff, ← exists_and_left]

lemma compare?_eq_none_iff : compare? x y = none ↔ place x = none ∨ place y = none := by
  rw [compare?_eq]
  cases place x with
  | none => simp
  | some p => simp

/-! ## Sizes -/

/-- Whether a double has a value with a given sign, and its absolute value, which may be infinite.
Either sign does for both zeros. -/
inductive HasSize (x : Float) (s : Sign) : WithTop ℚ → Prop where
  | zero {t : Sign} (unpacked : x.toModel.unpack = .zero t) : HasSize x s 0
  | finite {v : ℚ} (denotes : Denotes x s v) : HasSize x s v
  | infinity (unpacked : x.toModel.unpack = .infinity s) : HasSize x s ⊤

/-- An absolute value with its sign. -/
def withSign : Sign → WithTop ℚ → WithBot (WithTop ℚ)
  | .positive, a => a
  | .negative, ⊤ => ⊥
  | .negative, (v : ℚ) => ((-v : ℚ) : WithTop ℚ)

variable {a b : WithTop ℚ} {p : WithBot (WithTop ℚ)}

lemma HasSize.nonneg (size : HasSize x s a) : 0 ≤ a := by
  cases size with
  | zero _ => exact le_rfl
  | finite denotes => exact_mod_cast denotes.pos.le
  | infinity _ => exact le_top

lemma HasSize.place_eq (size : HasSize x s a) : place x = some (withSign s a) := by
  unfold place
  cases size with
  | zero unpacked =>
    rw [unpacked]
    cases s <;> rfl
  | finite denotes =>
    obtain ⟨m, e, finite, unpacked, rfl⟩ := denotes
    rw [unpacked]
    cases s <;> rfl
  | infinity unpacked =>
    rw [unpacked]
    cases s <;> rfl

/-- Every place belongs to a sign and an absolute value. -/
lemma exists_hasSize (placed : place x = some p) : ∃ s a, HasSize x s a ∧ withSign s a = p := by
  have size : ∃ s a, HasSize x s a := by
    unfold place at placed
    cases unpacked : x.toModel.unpack with
    | notANumber =>
      rw [unpacked] at placed
      cases placed
    | infinity s => exact ⟨s, ⊤, .infinity unpacked⟩
    | zero s => exact ⟨s, 0, .zero unpacked⟩
    | finite s m e pos => exact ⟨s, _, .finite (denotes_of_unpack unpacked)⟩
  obtain ⟨s, a, size⟩ := size
  exact ⟨s, a, size, Option.some.inj (size.place_eq.symm.trans placed)⟩

lemma withSign_positive_le : withSign .positive a ≤ withSign .positive b ↔ a ≤ b :=
  WithBot.coe_le_coe

lemma withSign_negative_le : withSign .negative a ≤ withSign .negative b ↔ b ≤ a := by
  cases a with
  | top => simp [withSign]
  | coe v =>
    cases b with
    | top => simp [withSign]
    | coe w =>
      simp only [withSign]
      norm_cast
      exact neg_le_neg_iff

lemma withSign_negative_nonpos (nonneg : 0 ≤ a) : withSign .negative a ≤ 0 := by
  cases a with
  | top => exact bot_le
  | coe v =>
    simp only [withSign]
    norm_cast at nonneg ⊢
    linarith

/-! ## Products keep the order -/

lemma Rounded.exists_hasSize (rounded : Rounded x s r) : ∃ a, HasSize x s a := by
  cases rounded with
  | zero _ unpacked => exact ⟨0, .zero unpacked⟩
  | finite _ _ unpacked => exact ⟨_, .finite (denotes_of_unpack unpacked)⟩
  | infinity _ unpacked => exact ⟨⊤, .infinity unpacked⟩

/-- What a greater number is rounded to is not smaller. -/
lemma Rounded.size_mono (left : Rounded x s r) (right : Rounded y t q) (le : r ≤ q) :
    ∃ a b, HasSize x s a ∧ HasSize y t b ∧ a ≤ b := by
  cases left with
  | zero _ unpacked =>
    obtain ⟨b, size⟩ := right.exists_hasSize
    exact ⟨0, b, .zero unpacked, size, size.nonneg⟩
  | infinity large unpacked =>
    have infinite := right.unpack_infinity (large.trans le)
    exact ⟨⊤, ⊤, .infinity unpacked, .infinity infinite, le_rfl⟩
  | finite binary64 rounds unpacked =>
    have size := HasSize.finite (denotes_of_unpack unpacked)
    cases right with
    | zero small _ =>
      have above := rounds.underflowLimit_lt binary64.canonical
      exact absurd (above.trans_le le) (not_lt.2 small)
    | infinity _ unpacked' => exact ⟨_, ⊤, size, .infinity unpacked', le_top⟩
    | finite binary64' rounds' unpacked' =>
      refine ⟨_, _, size, .finite (denotes_of_unpack unpacked'), ?_⟩
      exact_mod_cast rounds.mono binary64.canonical rounds' binary64'.canonical le

/-- A zero has both signs. -/
lemma HasSize.of_eq_zero (size : HasSize x s a) (zero : a = 0) (t : Sign) : HasSize x t 0 := by
  cases size with
  | zero unpacked => exact .zero unpacked
  | finite denotes => exact absurd (WithTop.coe_eq_zero.1 zero) denotes.pos.ne'
  | infinity _ => exact absurd zero WithTop.top_ne_zero

section Product

variable (factor : Denotes f .positive w)
include factor

lemma rounded_mul (denotes : Denotes x s v) : Rounded (x * f) s (v * w) := by
  have product := denotes.mul factor
  rwa [mul_positive] at product

lemma HasSize.mul_zero (unpacked : x.toModel.unpack = .zero t) : HasSize (x * f) s 0 :=
  .zero (unpack_zero_mul unpacked factor)

lemma HasSize.mul_infinity (unpacked : x.toModel.unpack = .infinity s) : HasSize (x * f) s ⊤ := by
  have product := unpack_infinity_mul unpacked factor
  rw [mul_positive] at product
  exact .infinity product

lemma HasSize.exists_mul (size : HasSize x s a) : ∃ b, HasSize (x * f) s b := by
  cases size with
  | zero unpacked => exact ⟨0, .mul_zero factor unpacked⟩
  | finite denotes => exact (rounded_mul factor denotes).exists_hasSize
  | infinity unpacked => exact ⟨⊤, .mul_infinity factor unpacked⟩

/-- The product of a greater size is not smaller. -/
lemma HasSize.mul_mono (size : HasSize x s a) (size' : HasSize y t b) (le : a ≤ b) :
    ∃ a' b', HasSize (x * f) s a' ∧ HasSize (y * f) t b' ∧ a' ≤ b' := by
  cases size with
  | zero unpacked =>
    obtain ⟨b', product⟩ := size'.exists_mul factor
    exact ⟨0, b', .mul_zero factor unpacked, product, product.nonneg⟩
  | infinity unpacked =>
    cases size' with
    | zero _ => exact absurd le (not_le.2 (WithTop.coe_lt_top 0))
    | finite _ => exact absurd le (not_le.2 (WithTop.coe_lt_top _))
    | infinity unpacked' =>
      exact ⟨⊤, ⊤, .mul_infinity factor unpacked, .mul_infinity factor unpacked', le_rfl⟩
  | finite denotes =>
    have rounded := rounded_mul factor denotes
    cases size' with
    | zero _ => exact absurd denotes.pos (not_lt.2 (by exact_mod_cast le))
    | infinity unpacked' =>
      obtain ⟨a', product⟩ := rounded.exists_hasSize
      exact ⟨a', ⊤, product, .mul_infinity factor unpacked', le_top⟩
    | finite denotes' =>
      have le := mul_le_mul_of_nonneg_right (WithTop.coe_le_coe.1 le) factor.pos.le
      exact rounded.size_mono (rounded_mul factor denotes') le

/-- A product with a positive number keeps the order of places. -/
lemma place_mul_mono {p q : WithBot (WithTop ℚ)} (placed : place x = some p)
    (placed' : place y = some q) (le : p ≤ q) :
    ∃ p' q', place (x * f) = some p' ∧ place (y * f) = some q' ∧ p' ≤ q' := by
  obtain ⟨s, a, size, rfl⟩ := exists_hasSize placed
  obtain ⟨t, b, size', rfl⟩ := exists_hasSize placed'
  have nonpos {c : WithTop ℚ} (nonneg : 0 ≤ c) := withSign_negative_nonpos nonneg
  -- a greater place is a greater size for the positive sign, a smaller one for the negative sign
  cases s <;> cases t
  case negative.negative =>
    obtain ⟨b', a', product', product, less⟩ := size'.mul_mono factor size (withSign_negative_le.1 le)
    exact ⟨_, _, product.place_eq, product'.place_eq, withSign_negative_le.2 less⟩
  case negative.positive =>
    obtain ⟨a', product⟩ := size.exists_mul factor
    obtain ⟨b', product'⟩ := size'.exists_mul factor
    have above : 0 ≤ withSign .positive b' := WithBot.coe_le_coe.2 product'.nonneg
    exact ⟨_, _, product.place_eq, product'.place_eq, (nonpos product.nonneg).trans above⟩
  case positive.negative =>
    -- only zeros are left
    have zero : a = 0 :=
      le_antisymm (WithBot.coe_le_coe.1 (le.trans (nonpos size'.nonneg))) size.nonneg
    have zero' : b = 0 := by
      have above : 0 ≤ withSign .positive a := WithBot.coe_le_coe.2 size.nonneg
      exact le_antisymm (withSign_negative_le.1 (above.trans le)) size'.nonneg
    obtain ⟨a', b', product, product', less⟩ :=
      (size.of_eq_zero zero .positive).mul_mono factor (size'.of_eq_zero zero' .positive) le_rfl
    exact ⟨_, _, product.place_eq, product'.place_eq, withSign_positive_le.2 less⟩
  case positive.positive =>
    obtain ⟨a', b', product, product', less⟩ :=
      size.mul_mono factor size' (withSign_positive_le.1 le)
    exact ⟨_, _, product.place_eq, product'.place_eq, withSign_positive_le.2 less⟩

/-- A NaN stays one. -/
lemma place_mul_eq_none (nowhere : place x = none) : place (x * f) = none := by
  obtain ⟨m, e, finite, unpacked, _⟩ := factor
  unfold place at nowhere
  split at nowhere
  case h_1 none =>
    have product : (x * f).toModel = .pack .notANumber := toModel_mul none unpacked
    rw [place, product]
    rfl
  all_goals cases nowhere

/-- Multiplied with a positive finite number, two doubles keep their order or become equal; equal ones
stay equal, and without an order there is none afterwards. -/
theorem compare?_mul (x y : Float) :
    (compare? x y = some .lt →
      compare? (x * f) (y * f) = some .lt ∨ compare? (x * f) (y * f) = some .eq) ∧
    (compare? x y = some .gt →
      compare? (x * f) (y * f) = some .gt ∨ compare? (x * f) (y * f) = some .eq) ∧
    (compare? x y = some .eq → compare? (x * f) (y * f) = some .eq) ∧
    (compare? x y = none → compare? (x * f) (y * f) = none) := by
  simp only [compare?_eq_some_iff, compare?_eq_none_iff]
  refine ⟨?_, ?_, ?_, ?_⟩
  · rintro ⟨p, q, placed, placed', order⟩
    obtain ⟨p', q', product, product', le⟩ :=
      place_mul_mono factor placed placed' (compare_lt_iff_lt.1 order).le
    exact le.lt_or_eq.imp (fun lt => ⟨p', q', product, product', compare_lt_iff_lt.2 lt⟩)
      (fun eq => ⟨p', q', product, product', compare_eq_iff_eq.2 eq⟩)
  · rintro ⟨p, q, placed, placed', order⟩
    obtain ⟨q', p', product', product, le⟩ :=
      place_mul_mono factor placed' placed (compare_gt_iff_gt.1 order).le
    exact le.lt_or_eq.imp (fun lt => ⟨p', q', product, product', compare_gt_iff_gt.2 lt⟩)
      (fun eq => ⟨p', q', product, product', compare_eq_iff_eq.2 eq.symm⟩)
  · rintro ⟨p, q, placed, placed', order⟩
    obtain rfl := compare_eq_iff_eq.1 order
    obtain ⟨p', q', product, product', le⟩ := place_mul_mono factor placed placed' le_rfl
    obtain ⟨q'', p'', again', again, ge⟩ := place_mul_mono factor placed' placed le_rfl
    obtain rfl : p'' = p' := Option.some.inj (again.symm.trans product)
    obtain rfl : q'' = q' := Option.some.inj (again'.symm.trans product')
    exact ⟨_, _, product, product', compare_eq_iff_eq.2 (le_antisymm le ge)⟩
  · exact Or.imp (place_mul_eq_none factor) (place_mul_eq_none factor)

end Product

end Metrology.Magnitude
