import Metrology.Proofs.Unit.Evaluation
import Metrology.Quantity

/-!
# Net powers

A unit expression uses each base unit to some net power: products add powers, quotients subtract
them, powers multiply them. Main statement: an identity depends on nothing else. Two expressions with
the same net powers have one identity, however they are nested, ordered and bracketed, so each may
be respelled as the other.

Power of ten and dimension are sums over the base units, weighted by net powers (`total_eq_sum`). The
ratio is a product of powers (`value_eq_prod`), which needs an invariant where a base unit has the
scale zero: its net power is then not negative, since every division by zero is refused.
-/

namespace Metrology.UnitExpr

variable {u v : UnitExpr}

/-- The sum of a weight over the base units of an expression, counted with sign and power. -/
def total (weight : BaseUnit → Int) : UnitExpr → Int
  | base unit => weight unit
  | product left right => left.total weight + right.total weight
  | quotient dividend divisor => dividend.total weight - divisor.total weight
  | power unit n => unit.total weight * n.toInt

/-- The net power of a base unit. -/
def netPower (u : UnitExpr) (b : BaseUnit) : Int :=
  u.total fun unit => if unit = b then 1 else 0

/-- The base units that are written in an expression. -/
def leaves : UnitExpr → Finset BaseUnit
  | base unit => {unit}
  | product left right => left.leaves ∪ right.leaves
  | quotient dividend divisor => dividend.leaves ∪ divisor.leaves
  | power unit _ => unit.leaves

@[simp] lemma netPower_base (unit b : BaseUnit) :
    (base unit).netPower b = if unit = b then 1 else 0 := rfl

@[simp] lemma netPower_product (u v : UnitExpr) (b : BaseUnit) :
    (product u v).netPower b = u.netPower b + v.netPower b := rfl

@[simp] lemma netPower_quotient (u v : UnitExpr) (b : BaseUnit) :
    (quotient u v).netPower b = u.netPower b - v.netPower b := rfl

@[simp] lemma netPower_power (u : UnitExpr) (n : Exponent) (b : BaseUnit) :
    (power u n).netPower b = u.netPower b * n.toInt := rfl

/-! ## Sums over base units -/

/-- A total is the sum of the weights, each times the net power of its base unit. -/
lemma total_eq_sum (weight : BaseUnit → Int) {s : Finset BaseUnit} (within : u.leaves ⊆ s) :
    u.total weight = ∑ b ∈ s, u.netPower b * weight b := by
  induction u with
  | base unit =>
    have mem : unit ∈ s := within (Finset.mem_singleton_self unit)
    simp [total, mem]
  | product left right ihl ihr =>
    obtain ⟨inl, inr⟩ := Finset.union_subset_iff.1 within
    simp only [total, netPower_product, add_mul, Finset.sum_add_distrib, ihl inl, ihr inr]
  | quotient dividend divisor ihl ihr =>
    obtain ⟨inl, inr⟩ := Finset.union_subset_iff.1 within
    simp only [total, netPower_quotient, sub_mul, Finset.sum_sub_distrib, ihl inl, ihr inr]
  | power unit n ih =>
    simp only [total, netPower_power, ih within, Finset.sum_mul]
    apply Finset.sum_congr rfl
    intro b _
    ring

/-- Totals depend on net powers only. -/
lemma total_eq_of_netPower_eq (weight : BaseUnit → Int) (same : ∀ b, u.netPower b = v.netPower b) :
    u.total weight = v.total weight := by
  have inl : u.leaves ⊆ u.leaves ∪ v.leaves := Finset.subset_union_left
  have inr : v.leaves ⊆ u.leaves ∪ v.leaves := Finset.subset_union_right
  rw [total_eq_sum weight inl, total_eq_sum weight inr]
  apply Finset.sum_congr rfl
  intro b _
  rw [same]

/-- A dimension is a total in every exponent. -/
lemma exponent_dimension_eq_total (u : UnitExpr) (q : BaseQuantity) :
    u.dimension.exponent q = u.total fun b => b.dimension.exponent q := by
  induction u with
  | base unit => rfl
  | product left right ihl ihr => simp only [dimension, FormalDimension.exponent_mul, ihl, ihr, total]
  | quotient dividend divisor ihl ihr =>
    simp only [dimension, FormalDimension.exponent_div, ihl, ihr, total]
  | power unit n ih => simp only [dimension, FormalDimension.exponent_pow, ih, total]

/-- A power of ten that fits is a total. -/
lemma toInt_exponent_eq_total {e : Exponent} (h : u.exponent? = some e) :
    e.toInt = u.total fun b => b.exponent.toInt := by
  induction u generalizing e with
  | base unit =>
    cases h
    rfl
  | product left right ihl ihr =>
    obtain ⟨a, b, ha, hb, sum⟩ := exponent?_product h
    rw [Exponent.add?_eq_some_iff.1 sum, ihl ha, ihr hb, total]
  | quotient dividend divisor ihl ihr =>
    obtain ⟨a, b, ha, hb, difference⟩ := exponent?_quotient h
    rw [Exponent.sub?_eq_some_iff.1 difference, ihl ha, ihr hb, total]
  | power unit n ih =>
    obtain ⟨a, ha, multiple⟩ := exponent?_power h
    rw [Exponent.mul?_eq_some_iff.1 multiple, ih ha, total]

/-! ## Products over base units -/

/-- The scale that net powers describe, over a set of base units. -/
def scale (s : Finset BaseUnit) (u : UnitExpr) : Rat :=
  ∏ b ∈ s, b.ratio.value ^ u.netPower b

/-- Whether base units of scale zero are only multiplied with. -/
def ZerosUpward (s : Finset BaseUnit) (u : UnitExpr) : Prop :=
  ∀ b ∈ s, b.ratio.value = 0 → 0 ≤ u.netPower b

lemma scale_base {unit : BaseUnit} {s : Finset BaseUnit} (mem : unit ∈ s) :
    scale s (base unit) = unit.ratio.value := by
  simp [scale, mem, apply_ite]

lemma scale_product {s : Finset BaseUnit} (hu : ZerosUpward s u) (hv : ZerosUpward s v) :
    scale s (product u v) = scale s u * scale s v := by
  rw [scale, scale, scale, ← Finset.prod_mul_distrib]
  apply Finset.prod_congr rfl
  intro b mem
  rw [netPower_product]
  apply zpow_add'
  by_cases zero : b.ratio.value = 0
  · have := hu b mem zero
    have := hv b mem zero
    omega
  · exact .inl zero

/-- Where a scale is not zero, base units of scale zero cancel. -/
lemma netPower_eq_zero {s : Finset BaseUnit} (nonzero : scale s u ≠ 0) {b : BaseUnit}
    (mem : b ∈ s) (zero : b.ratio.value = 0) : u.netPower b = 0 := by
  have factor := Finset.prod_ne_zero_iff.1 nonzero b mem
  by_contra power
  rw [zero, zero_zpow _ power] at factor
  exact factor rfl

lemma scale_quotient {s : Finset BaseUnit} (nonzero : scale s v ≠ 0) :
    scale s (quotient u v) = scale s u / scale s v := by
  rw [scale, scale, scale, ← Finset.prod_div_distrib]
  apply Finset.prod_congr rfl
  intro b mem
  rw [netPower_quotient]
  by_cases zero : b.ratio.value = 0
  · rw [netPower_eq_zero nonzero mem zero, sub_zero, zpow_zero, div_one]
  · exact zpow_sub₀ zero _ _

lemma scale_power {s : Finset BaseUnit} {n : Exponent} :
    scale s (power u n) = scale s u ^ n.toInt := by
  rw [scale, scale, ← Finset.prod_zpow]
  apply Finset.prod_congr rfl
  intro b _
  exact zpow_mul _ _ _

/-- A ratio that fits at every node is the scale that net powers describe. The invariant on zeros is
carried along, since powers of zero only add where neither is negative. -/
lemma value_eq_scale {r : Ratio} {s : Finset BaseUnit} (within : u.leaves ⊆ s)
    (h : u.ratio? = some r) : ZerosUpward s u ∧ r.value = scale s u := by
  induction u generalizing r with
  | base unit =>
    cases h
    refine ⟨?_, (scale_base (within (Finset.mem_singleton_self unit))).symm⟩
    intro b _ _
    rw [netPower_base]
    split <;> decide
  | product left right ihl ihr =>
    obtain ⟨inl, inr⟩ := Finset.union_subset_iff.1 within
    obtain ⟨a, b, ha, hb, product⟩ := ratio?_product h
    obtain ⟨zerosl, valuel⟩ := ihl inl ha
    obtain ⟨zerosr, valuer⟩ := ihr inr hb
    refine ⟨fun b mem zero => add_nonneg (zerosl b mem zero) (zerosr b mem zero), ?_⟩
    rw [Ratio.mul?_eq_some_iff.1 product, valuel, valuer, scale_product zerosl zerosr]
  | quotient dividend divisor ihl ihr =>
    obtain ⟨inl, inr⟩ := Finset.union_subset_iff.1 within
    obtain ⟨a, b, ha, hb, quotient⟩ := ratio?_quotient h
    obtain ⟨zerosl, valuel⟩ := ihl inl ha
    obtain ⟨zerosr, valuer⟩ := ihr inr hb
    obtain ⟨nonzero, value⟩ := Ratio.div?_eq_some_iff.1 quotient
    rw [valuer] at nonzero
    refine ⟨fun b mem zero => ?_, by rw [value, valuel, valuer, scale_quotient nonzero]⟩
    -- the divisor is not zero, so nothing is taken off a power of zero
    rw [netPower_quotient, netPower_eq_zero nonzero mem zero, sub_zero]
    exact zerosl b mem zero
  | power unit n ih =>
    obtain ⟨a, ha, power⟩ := ratio?_power h
    obtain ⟨zeros, base⟩ := ih within ha
    obtain ⟨nonzero, value⟩ := Ratio.pow?_eq_some_iff.1 power
    refine ⟨fun b mem zero => ?_, by rw [value, base, scale_power]⟩
    rw [netPower_power]
    -- a negative power has a reciprocal, which zero does not have
    rcases Int.lt_or_le n.toInt 0 with negative | nonneg
    · rw [netPower_eq_zero (base ▸ nonzero negative) mem zero, zero_mul]
    · exact mul_nonneg (zeros b mem zero) nonneg

/-- Ratios depend on net powers only. -/
lemma ratio_eq_of_netPower_eq {a b : Ratio} (same : ∀ b, u.netPower b = v.netPower b)
    (ha : u.ratio? = some a) (hb : v.ratio? = some b) : a = b := by
  apply Ratio.value_injective
  have inl : u.leaves ⊆ u.leaves ∪ v.leaves := Finset.subset_union_left
  have inr : v.leaves ⊆ u.leaves ∪ v.leaves := Finset.subset_union_right
  rw [(value_eq_scale inl ha).2, (value_eq_scale inr hb).2]
  simp only [scale, same]

/-! ## Identities -/

/-- Two expressions in which every base unit has the same net power are two spellings of one unit: if
they have identities at all, these are the same, and quantities are respelled as they are. -/
theorem identity_eq_of_netPower_eq (same : ∀ b, u.netPower b = v.netPower b)
    (hu : u.Evaluates) (hv : v.Evaluates) :
    ∃ (dimension : u.dimension = v.dimension) (identity : u.identity hu = v.identity hv),
      ∀ q : Quantity u, (q.respell v hu hv dimension identity).magnitude = q.magnitude := by
  have dimension : u.dimension = v.dimension := by
    ext q
    rw [exponent_dimension_eq_total, exponent_dimension_eq_total]
    exact total_eq_of_netPower_eq _ same
  have identity : u.identity hu = v.identity hv := by
    ext1
    · exact ratio_eq_of_netPower_eq same (ratio?_eq_some hu) (ratio?_eq_some hv)
    · apply Exponent.ext
      rw [toInt_exponent_eq_total (exponent?_eq_some hu),
        toInt_exponent_eq_total (exponent?_eq_some hv)]
      exact total_eq_of_netPower_eq _ same
    · apply Dimension.formal_injective
      rw [dimension_identity, dimension_identity, dimension]
  exact ⟨dimension, identity, fun _ => rfl⟩

/-- Squared kilometre-hours per hour. -/
def kilometreHoursSquaredPerHour : UnitExpr :=
  quotient (power (product kilometre hour) (exponentOf 2)) hour

/-- Hours times square kilometres. -/
def hourSquareKilometre : UnitExpr :=
  product hour (power kilometre (exponentOf 2))

theorem identity_kilometreHoursSquaredPerHour :
    (∀ b, kilometreHoursSquaredPerHour.netPower b = hourSquareKilometre.netPower b) ∧
      ∃ (hu : kilometreHoursSquaredPerHour.Evaluates) (hv : hourSquareKilometre.Evaluates),
        kilometreHoursSquaredPerHour.identity hu = hourSquareKilometre.identity hv := by
  have same : ∀ b, kilometreHoursSquaredPerHour.netPower b = hourSquareKilometre.netPower b := by
    intro b
    simp only [kilometreHoursSquaredPerHour, hourSquareKilometre, netPower_quotient,
      netPower_power, netPower_product, exponentOf]
    ring
  have hu : kilometreHoursSquaredPerHour.Evaluates := by decide
  have hv : hourSquareKilometre.Evaluates := by decide
  obtain ⟨_, identity, _⟩ := identity_eq_of_netPower_eq same hu hv
  exact ⟨same, hu, hv, identity⟩

end Metrology.UnitExpr
