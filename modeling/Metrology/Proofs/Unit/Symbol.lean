import Mathlib.Data.Set.Function
import Metrology.Proofs.Text.Separator
import Metrology.Proofs.Unit.NetPower
import Metrology.Unit.Catalog
import Metrology.Unit.Symbol

/-!
# Reading a symbol

The full symbol of a unit is written without precedence: an operand that has no symbol of its own
stands in parentheses, whatever the operation is. Main statement: that is enough. If the base units
have different symbols, and none of these contains a parenthesis or a sign of an operation, then no
two expressions over them have the same full symbol.

Symbols are shown to be a prefix code: where two texts begin with a symbol each and agree, both
symbols and both rests agree, as long as the rests begin with something that cannot go on with a
symbol (`oneReading`). Behind a symbol that is a closing parenthesis or nothing, behind an operand
any mark will do. The induction is on the expression; an operand has one reading because what stands
between its parentheses has (`OneReading.operand`).
-/

namespace Metrology.UnitExpr

/-! ## Marks -/

/-- The characters that give a symbol its structure. -/
def marks : List Char :=
  ['(', ')', '/', '·', '^']

/-- A text without structure. -/
def Plain (cs : List Char) : Prop :=
  ∀ c ∈ cs, c ∉ marks

/-- What may stand behind a text without structure: nothing, or a text that begins with a mark. -/
def Stops (rest : List Char) : Prop :=
  ∀ c ∈ rest.head?, c ∈ marks

/-- What may stand behind a symbol: nothing, or something that begins with a closing parenthesis. -/
def Closes (rest : List Char) : Prop :=
  ∀ c ∈ rest.head?, c = ')'

lemma Closes.stops {rest : List Char} (closes : Closes rest) : Stops rest := by
  intro c first
  rw [closes c first]
  decide

lemma stops_cons {c : Char} {rest : List Char} (mark : c ∈ marks) : Stops (c :: rest) := by
  intro d first
  obtain rfl := Option.some.inj first
  exact mark

/-- A text without structure ends where the first mark is. -/
lemma Plain.append_injective {a b r s : List Char} (plain_a : Plain a) (plain_b : Plain b)
    (stop_r : Stops r) (stop_s : Stops s) (same : a ++ r = b ++ s) : a = b ∧ r = s :=
  Text.append_injective_of_stops plain_a plain_b stop_r stop_s same

lemma Plain.ne_cons {a r : List Char} {c : Char} (plain : Plain a) (mark : c ∈ marks)
    (filled : a ≠ []) : ∀ t, a ++ r ≠ c :: t := by
  intro t same
  cases a with
  | nil => exact filled rfl
  | cons d a =>
    obtain ⟨rfl, _⟩ := List.cons.inj same
    exact plain d List.mem_cons_self mark

lemma plain_text (n : Exponent) : Plain n.text.toList := by
  intro c mem mark
  rcases Text.mem_repr mem with rfl | digit
  · exact absurd mark (by decide)
  · fin_cases mark <;> exact absurd digit (by decide)

/-! ## Texts of operands -/

def operandText (u : UnitExpr) : List Char :=
  (u.operand u.symbol).toList

lemma toList_symbol_product (u v : UnitExpr) :
    (product u v).symbol.toList = u.operandText ++ '·' :: v.operandText := by
  rw [symbol, String.toList_append, String.toList_append, List.append_assoc]
  rfl

lemma toList_symbol_quotient (u v : UnitExpr) :
    (quotient u v).symbol.toList = u.operandText ++ '/' :: v.operandText := by
  rw [symbol, String.toList_append, String.toList_append, List.append_assoc]
  rfl

lemma toList_symbol_power (u : UnitExpr) (n : Exponent) :
    (power u n).symbol.toList = u.operandText ++ '^' :: n.text.toList := by
  rw [symbol, String.toList_append, String.toList_append, List.append_assoc]
  rfl

/-- An operand is a base unit with a symbol, which is written as it is, or stands in parentheses. -/
lemma operandText_cases (u : UnitExpr) :
    (∃ unit, u = base unit ∧ unit.symbol.toList ≠ [] ∧ u.operandText = unit.symbol.toList) ∨
      u.operandText = '(' :: (u.symbol.toList ++ [')']) := by
  by_cases unnamed : u.ownSymbol.isEmpty = true
  · right
    rw [operandText, operand, if_pos unnamed, String.toList_append, String.toList_append]
    rfl
  · left
    cases u with
    | base unit =>
      refine ⟨unit, rfl, ?_, ?_⟩
      · intro empty
        rw [String.toList_eq_nil_iff] at empty
        exact unnamed (by rw [ownSymbol, empty]; rfl)
      · rw [operandText, operand, if_neg unnamed]
        rfl
    | product left right => exact absurd rfl unnamed
    | quotient dividend divisor => exact absurd rfl unnamed
    | power unit n => exact absurd rfl unnamed

/-! ## Symbols as a prefix code -/

/-- Base units whose symbols can be told apart and have no structure. -/
structure Legible (s : Set BaseUnit) : Prop where
  distinct : Set.InjOn BaseUnit.symbol s
  plain : ∀ unit ∈ s, Plain unit.symbol.toList

/-- Whether all base units of an expression are in a set. -/
def BuiltFrom (s : Set BaseUnit) (u : UnitExpr) : Prop :=
  ∀ unit ∈ u.leaves, unit ∈ s

/-- Whether the symbol of an expression, where a text begins with it, leaves only one reading: the
one expression and what is behind it. -/
def OneReading (s : Set BaseUnit) (u : UnitExpr) : Prop :=
  ∀ v q r, BuiltFrom s v → Closes q → Closes r →
    u.symbol.toList ++ q = v.symbol.toList ++ r → u = v ∧ q = r

variable {s : Set BaseUnit} {u v w : UnitExpr}

lemma builtFrom_base {unit : BaseUnit} : BuiltFrom s (base unit) ↔ unit ∈ s := by
  simp [BuiltFrom, leaves]

lemma builtFrom_product : BuiltFrom s (product u v) ↔ BuiltFrom s u ∧ BuiltFrom s v := by
  simp [BuiltFrom, leaves, or_imp, forall_and]

lemma builtFrom_quotient : BuiltFrom s (quotient u v) ↔ BuiltFrom s u ∧ BuiltFrom s v := by
  simp [BuiltFrom, leaves, or_imp, forall_and]

lemma builtFrom_power {n : Exponent} : BuiltFrom s (power u n) ↔ BuiltFrom s u := Iff.rfl

lemma Legible.base_eq (legible : Legible s) {a b : BaseUnit} {q r : List Char} (mem_a : a ∈ s)
    (mem_b : b ∈ s) (stop_q : Stops q) (stop_r : Stops r)
    (same : a.symbol.toList ++ q = b.symbol.toList ++ r) : a = b ∧ q = r := by
  obtain ⟨symbols, rests⟩ :=
    Plain.append_injective (legible.plain a mem_a) (legible.plain b mem_b) stop_q stop_r same
  exact ⟨legible.distinct mem_a mem_b (String.toList_inj.1 symbols), rests⟩

/-- An operand has one reading if its symbol has, and any mark ends it. -/
lemma OneReading.operand (legible : Legible s) (built : BuiltFrom s u) (reading : OneReading s u)
    {q r : List Char} (built_v : BuiltFrom s v) (stop_q : Stops q) (stop_r : Stops r)
    (same : u.operandText ++ q = v.operandText ++ r) : u = v ∧ q = r := by
  rcases u.operandText_cases with ⟨a, rfl, filled, text⟩ | enclosed
  · have plain : Plain a.symbol.toList := legible.plain a (builtFrom_base.1 built)
    rcases v.operandText_cases with ⟨b, rfl, _, text'⟩ | enclosed'
    · rw [text, text'] at same
      obtain ⟨rfl, rests⟩ :=
        legible.base_eq (builtFrom_base.1 built) (builtFrom_base.1 built_v) stop_q stop_r same
      exact ⟨rfl, rests⟩
    · rw [text, enclosed'] at same
      exact absurd same (plain.ne_cons (by decide) filled _)
  · rcases v.operandText_cases with ⟨b, rfl, filled, text'⟩ | enclosed'
    · rw [enclosed, text'] at same
      have plain : Plain b.symbol.toList := legible.plain b (builtFrom_base.1 built_v)
      exact absurd same.symm (plain.ne_cons (by decide) filled _)
    · -- inside the parentheses both symbols end at a closing one
      rw [enclosed, enclosed'] at same
      have inside : u.symbol.toList ++ (')' :: q) = v.symbol.toList ++ (')' :: r) := by
        simpa using same
      have closes : ∀ t, Closes (')' :: t) := by
        intro t c first
        exact (Option.some.inj first).symm
      obtain ⟨rfl, rests⟩ := reading v _ _ built_v (closes q) (closes r) inside
      exact ⟨rfl, (List.cons.inj rests).2⟩

/-- No text begins both with the symbol of a base unit and with an operand that an operation
follows. -/
lemma Legible.base_ne_operation (legible : Legible s) {a : BaseUnit} {q t : List Char} {c : Char}
    (mem : a ∈ s) (built : BuiltFrom s u) (closes : Closes q) (mark : c ∈ marks)
    (operation : c ≠ ')') : a.symbol.toList ++ q ≠ u.operandText ++ c :: t := by
  intro same
  rcases u.operandText_cases with ⟨b, rfl, _, text⟩ | enclosed
  · rw [text] at same
    obtain ⟨_, rests⟩ :=
      legible.base_eq mem (builtFrom_base.1 built) closes.stops (stops_cons mark) same
    exact operation (closes c (by rw [rests]; rfl))
  · rw [enclosed] at same
    by_cases empty : a.symbol.toList = []
    · -- what follows an empty symbol would have to be the parenthesis itself
      rw [empty] at same
      have first : '(' = ')' := closes '(' (by rw [show q = _ from same]; rfl)
      exact absurd first (by decide)
    · exact absurd same ((legible.plain a mem).ne_cons (by decide) empty _)

lemma OneReading.operation (legible : Legible s) (built : BuiltFrom s u) (reading : OneReading s u)
    {q r : List Char} {c d : Char} (built_v : BuiltFrom s v) (mark_c : c ∈ marks)
    (mark_d : d ∈ marks) (same : u.operandText ++ c :: q = v.operandText ++ d :: r) :
    c = d ∧ u = v ∧ q = r := by
  obtain ⟨operands, rests⟩ :=
    reading.operand legible built built_v (stops_cons mark_c) (stops_cons mark_d) same
  obtain ⟨signs, tails⟩ := List.cons.inj rests
  exact ⟨signs, operands, tails⟩

/-- What a text that begins with an operand and the sign of an operation can be the symbol of: that
operation on that operand. -/
lemma OneReading.inversion (legible : Legible s) (built : BuiltFrom s u) (reading : OneReading s u)
    {q r : List Char} {c : Char} (built_v : BuiltFrom s v) (closes : Closes r) (mark : c ∈ marks)
    (operation : c ≠ ')') (same : u.operandText ++ c :: q = v.symbol.toList ++ r) :
    (c = '·' ∧ ∃ w, v = product u w ∧ BuiltFrom s w ∧ q = w.operandText ++ r) ∨
      (c = '/' ∧ ∃ w, v = quotient u w ∧ BuiltFrom s w ∧ q = w.operandText ++ r) ∨
      (c = '^' ∧ ∃ n, v = power u n ∧ q = n.text.toList ++ r) := by
  cases v with
  | base unit =>
    have mem : unit ∈ s := builtFrom_base.1 built_v
    exact absurd same.symm (legible.base_ne_operation mem built closes mark operation)
  | product left right =>
    obtain ⟨built_left, built_right⟩ := builtFrom_product.1 built_v
    rw [toList_symbol_product, List.append_assoc] at same
    obtain ⟨sign, rfl, tails⟩ := reading.operation legible built built_left mark (by decide) same
    exact .inl ⟨sign, right, rfl, built_right, tails⟩
  | quotient dividend divisor =>
    obtain ⟨built_left, built_right⟩ := builtFrom_quotient.1 built_v
    rw [toList_symbol_quotient, List.append_assoc] at same
    obtain ⟨sign, rfl, tails⟩ := reading.operation legible built built_left mark (by decide) same
    exact .inr (.inl ⟨sign, divisor, rfl, built_right, tails⟩)
  | power unit n =>
    rw [toList_symbol_power, List.append_assoc] at same
    obtain ⟨sign, rfl, tails⟩ :=
      reading.operation legible built (builtFrom_power.1 built_v) mark (by decide) same
    exact .inr (.inr ⟨sign, n, rfl, tails⟩)

/-- A base unit has one reading: nothing composite is written without a mark. -/
lemma oneReading_base (legible : Legible s) {unit : BaseUnit} (mem : unit ∈ s) :
    OneReading s (base unit) := by
  intro v q r built_v closes_q closes_r same
  cases v with
  | base other =>
    obtain ⟨rfl, rests⟩ :=
      legible.base_eq mem (builtFrom_base.1 built_v) closes_q.stops closes_r.stops same
    exact ⟨rfl, rests⟩
  | product left right =>
    rw [toList_symbol_product, List.append_assoc] at same
    have built := (builtFrom_product.1 built_v).1
    exact absurd same (legible.base_ne_operation mem built closes_q (by decide) (by decide))
  | quotient dividend divisor =>
    rw [toList_symbol_quotient, List.append_assoc] at same
    have built := (builtFrom_quotient.1 built_v).1
    exact absurd same (legible.base_ne_operation mem built closes_q (by decide) (by decide))
  | power unit n =>
    rw [toList_symbol_power, List.append_assoc] at same
    have built := builtFrom_power.1 built_v
    exact absurd same (legible.base_ne_operation mem built closes_q (by decide) (by decide))

/-- Every symbol has one reading. -/
lemma oneReading (legible : Legible s) (built : BuiltFrom s u) : OneReading s u := by
  induction u with
  | base unit => exact oneReading_base legible (builtFrom_base.1 built)
  | product left right ihl ihr =>
    obtain ⟨built_left, built_right⟩ := builtFrom_product.1 built
    intro v q r built_v closes_q closes_r same
    rw [toList_symbol_product, List.append_assoc] at same
    -- the left operand and the sign leave one shape for `v`; the right operand is read behind them
    have shape :=
      (ihl built_left).inversion legible built_left built_v closes_r (by decide) (by decide) same
    rcases shape with ⟨_, w, rfl, built_w, tails⟩ | ⟨sign, _⟩ | ⟨sign, _⟩
    · obtain ⟨rfl, rests⟩ :=
        (ihr built_right).operand legible built_right built_w closes_q.stops closes_r.stops tails
      exact ⟨rfl, rests⟩
    · exact absurd sign (by decide)
    · exact absurd sign (by decide)
  | quotient dividend divisor ihl ihr =>
    obtain ⟨built_left, built_right⟩ := builtFrom_quotient.1 built
    intro v q r built_v closes_q closes_r same
    rw [toList_symbol_quotient, List.append_assoc] at same
    have shape :=
      (ihl built_left).inversion legible built_left built_v closes_r (by decide) (by decide) same
    rcases shape with ⟨sign, _⟩ | ⟨_, w, rfl, built_w, tails⟩ | ⟨sign, _⟩
    · exact absurd sign (by decide)
    · obtain ⟨rfl, rests⟩ :=
        (ihr built_right).operand legible built_right built_w closes_q.stops closes_r.stops tails
      exact ⟨rfl, rests⟩
    · exact absurd sign (by decide)
  | power unit n ih =>
    have built_unit := builtFrom_power.1 built
    intro v q r built_v closes_q closes_r same
    rw [toList_symbol_power, List.append_assoc] at same
    have shape :=
      (ih built_unit).inversion legible built_unit built_v closes_r (by decide) (by decide) same
    rcases shape with ⟨sign, _⟩ | ⟨sign, _⟩ | ⟨_, m, rfl, tails⟩
    · exact absurd sign (by decide)
    · exact absurd sign (by decide)
    · obtain ⟨texts, rests⟩ :=
        (plain_text n).append_injective (plain_text m) closes_q.stops closes_r.stops tails
      have powers : n = m := Exponent.ext (Int.repr_injective (String.toList_inj.1 texts))
      exact ⟨by rw [powers], rests⟩

/-- Full symbols are unambiguous: two expressions over base units that can be told apart have the
same symbol only if they are the same expression, and so have the same identity. -/
theorem eq_of_symbol_eq {s : Set BaseUnit} (legible : Legible s) {u v : UnitExpr}
    (built_u : BuiltFrom s u) (built_v : BuiltFrom s v) (same : u.symbol = v.symbol) :
    u = v ∧ u.identity? = v.identity? := by
  have closes : Closes [] := by
    intro c first
    cases first
  obtain ⟨rfl, _⟩ := oneReading legible built_u v [] [] built_v closes closes (by rw [same])
  exact ⟨rfl, rfl⟩

/-- Metres, seconds and plain numbers, of which the last have an empty symbol, can be told apart. -/
theorem eq_of_symbol_metresPerSecond :
    let perSecond := quotient metre (product scalar (power second (exponentOf (-2))))
    Legible (perSecond.leaves : Set BaseUnit) ∧ BuiltFrom perSecond.leaves perSecond ∧
      perSecond.symbol = "m/(()·(s^-2))" ∧
      (perSecond = perSecond ∧ perSecond.identity? = perSecond.identity?) := by
  intro perSecond
  have legible : Legible (perSecond.leaves : Set BaseUnit) := by
    constructor
    · have apart : ∀ a ∈ perSecond.leaves, ∀ b ∈ perSecond.leaves, a.symbol = b.symbol → a = b := by
        decide
      exact fun a mem_a b mem_b => apart a mem_a b mem_b
    · have markless : ∀ a ∈ perSecond.leaves, marks.all (· ∉ a.symbol.toList) = true := by
        decide
      intro a mem c first mark
      exact of_decide_eq_true (List.all_eq_true.1 (markless a mem) c mark) first
  have built : BuiltFrom perSecond.leaves perSecond := fun _ mem => mem
  exact ⟨legible, built, rfl, eq_of_symbol_eq legible built built rfl⟩

end Metrology.UnitExpr
