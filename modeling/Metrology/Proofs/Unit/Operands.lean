import Mathlib.Logic.Basic
import Metrology.Unit.Catalog
import Metrology.Unit.Symbol

/-!
# Parentheses in symbols

The symbol of a composite unit is made of the texts of its operands, and some of these stand in
parentheses. Main statement: an operand does so exactly if it has no symbol of its own, at whatever
depth it stands. Hence the parentheses mark the composite operands, with one exception: a base unit
whose symbol is empty is written as a pair of parentheses with nothing between them.

An operand stands at a position: a site in an operation and, if that operation is itself an operand,
the sites around it. What is written in front of a position and behind it depends on the position
alone (`Position.symbol_fill`), so the text of the operand can be read off.
-/

namespace Metrology.UnitExpr

def isComposite : UnitExpr → Bool
  | base _ => false
  | _ => true

/-! ## Sites -/

/-- A place for an operand in one operation, with the other operand. -/
inductive Site where
  | left (right : UnitExpr)
  | right (left : UnitExpr)
  | dividend (divisor : UnitExpr)
  | divisor (dividend : UnitExpr)
  | raised (n : Exponent)

namespace Site

/-- The operation with an operand in the free place. -/
def around : Site → UnitExpr → UnitExpr
  | left v, u => product u v
  | right v, u => product v u
  | dividend v, u => quotient u v
  | divisor v, u => quotient v u
  | raised n, u => power u n

/-- What the operation writes in front of the free place. -/
def before : Site → String
  | right v => v.operand v.symbol ++ "·"
  | divisor v => v.operand v.symbol ++ "/"
  | left _ | dividend _ | raised _ => ""

/-- What the operation writes behind the free place. -/
def after : Site → String
  | left v => "·" ++ v.operand v.symbol
  | dividend v => "/" ++ v.operand v.symbol
  | raised n => "^" ++ n.text
  | right _ | divisor _ => ""

lemma ownSymbol_around (s : Site) (u : UnitExpr) : (s.around u).ownSymbol = "" := by
  cases s <;> rfl

lemma symbol_around (s : Site) (u : UnitExpr) :
    (s.around u).symbol = s.before ++ u.operand u.symbol ++ s.after := by
  cases s <;> simp only [around, symbol, before, after, String.append_assoc, String.empty_append,
    String.append_empty]

end Site

/-! ## Positions -/

/-- A place for an operand in an expression: its site, and the sites of the operations around that
one, from the outermost on. -/
structure Position where
  site : Site
  outer : List Site := []

namespace Position

/-- The expression in which an operand stands at a position. -/
def fill (p : Position) (u : UnitExpr) : UnitExpr :=
  p.outer.foldr Site.around (p.site.around u)

/-- What the expression writes in front of a position. The operations inside another one are composite
operands of it. -/
def before (p : Position) : String :=
  p.outer.foldr (fun s text => s.before ++ "(" ++ text) p.site.before

/-- What the expression writes behind a position. -/
def after (p : Position) : String :=
  p.outer.foldr (fun s text => text ++ ")" ++ s.after) p.site.after

/-- Whether an operand is written as the given text where it stands. -/
def Writes (p : Position) (u : UnitExpr) (text : String) : Prop :=
  (p.fill u).symbol = p.before ++ text ++ p.after

/-- Whether parentheses tell the shape of an operand: it stands in parentheses exactly if it is
composite, and a base unit is written as its bare symbol. -/
def MarksShape (p : Position) (u : UnitExpr) : Prop :=
  (p.Writes u ("(" ++ u.symbol ++ ")") ↔ u.isComposite = true) ∧
    ∀ unit, u = base unit → p.Writes u unit.symbol

variable {p : Position} {u : UnitExpr}

lemma ownSymbol_fill (p : Position) (u : UnitExpr) : (p.fill u).ownSymbol = "" := by
  obtain ⟨site, outer⟩ := p
  cases outer with
  | nil => exact site.ownSymbol_around u
  | cons s outer => exact s.ownSymbol_around _

/-- The text of an operand stands between what is written in front of its position and behind it. -/
lemma symbol_fill (p : Position) (u : UnitExpr) :
    (p.fill u).symbol = p.before ++ u.operand u.symbol ++ p.after := by
  obtain ⟨site, outer⟩ := p
  induction outer with
  | nil => exact site.symbol_around u
  | cons s outer ih =>
    let inner : Position := ⟨site, outer⟩
    have enclosed : (inner.fill u).operand (inner.fill u).symbol
        = "(" ++ (inner.before ++ u.operand u.symbol ++ inner.after) ++ ")" := by
      rw [operand, ownSymbol_fill, if_pos (show "".isEmpty = true from rfl), ih]
    show (s.around (inner.fill u)).symbol
      = s.before ++ "(" ++ inner.before ++ u.operand u.symbol ++ (inner.after ++ ")" ++ s.after)
    rw [Site.symbol_around, enclosed]
    simp only [String.append_assoc]

lemma writes_iff {text : String} : p.Writes u text ↔ u.operand u.symbol = text := by
  rw [Writes, symbol_fill, String.append_left_inj, String.append_right_inj]

lemma enclosed_ne (text : String) : "(" ++ text ++ ")" ≠ text := by
  intro same
  have lengths := congrArg String.length same
  rw [String.length_append, String.length_append] at lengths
  change 1 + text.length + 1 = text.length at lengths
  omega

lemma writes_enclosed_iff : p.Writes u ("(" ++ u.symbol ++ ")") ↔ u.ownSymbol = "" := by
  rw [writes_iff, operand, ← String.isEmpty_iff]
  split
  · next unnamed => exact iff_of_true rfl unnamed
  · next named => exact iff_of_false (enclosed_ne _).symm named

lemma writes_bare_iff : p.Writes u u.symbol ↔ u.ownSymbol ≠ "" := by
  rw [writes_iff, operand, Ne, ← String.isEmpty_iff]
  split
  · next unnamed => exact iff_of_false (enclosed_ne _) (not_not_intro unnamed)
  · next named => exact iff_of_true rfl named

/-- Besides the composite units, only base units with an empty symbol have none. -/
lemma ownSymbol_eq_empty_iff :
    u.ownSymbol = "" ↔ u.isComposite = true ∨ ∃ unit, u = base unit ∧ unit.symbol = "" := by
  cases u with
  | base unit => simp [ownSymbol, isComposite]
  | product left right => exact iff_of_true rfl (.inl rfl)
  | quotient dividend divisor => exact iff_of_true rfl (.inl rfl)
  | power unit n => exact iff_of_true rfl (.inl rfl)

lemma ownSymbol_ne_empty_iff :
    u.ownSymbol ≠ "" ↔ ∃ unit, u = base unit ∧ unit.symbol ≠ "" := by
  cases u with
  | base unit => simp [ownSymbol]
  | product left right => exact iff_of_false (fun named => named rfl) (by simp)
  | quotient dividend divisor => exact iff_of_false (fun named => named rfl) (by simp)
  | power unit n => exact iff_of_false (fun named => named rfl) (by simp)

/-- An operand stands in parentheses exactly if it is composite or a base unit with an empty symbol,
and is written bare exactly if it is any other base unit. So parentheses tell the shape of every
operand but the base units with an empty symbol. -/
theorem marksShape_iff (p : Position) (u : UnitExpr) :
    (p.Writes u ("(" ++ u.symbol ++ ")") ↔
      u.isComposite = true ∨ ∃ unit, u = base unit ∧ unit.symbol = "") ∧
    (p.Writes u u.symbol ↔ ∃ unit, u = base unit ∧ unit.symbol ≠ "") ∧
    (p.MarksShape u ↔ ∀ unit, u = base unit → unit.symbol ≠ "") := by
  have enclosed : p.Writes u ("(" ++ u.symbol ++ ")") ↔
      u.isComposite = true ∨ ∃ unit, u = base unit ∧ unit.symbol = "" :=
    writes_enclosed_iff.trans ownSymbol_eq_empty_iff
  have bare : p.Writes u u.symbol ↔ ∃ unit, u = base unit ∧ unit.symbol ≠ "" :=
    writes_bare_iff.trans ownSymbol_ne_empty_iff
  refine ⟨enclosed, bare, ?_, ?_⟩
  · rintro ⟨_, symbols⟩ unit rfl
    obtain ⟨_, same, named⟩ := bare.1 (symbols unit rfl)
    cases same
    exact named
  · intro named
    refine ⟨enclosed.trans (or_iff_left ?_), ?_⟩
    · rintro ⟨unit, rfl, unnamed⟩
      exact named unit rfl unnamed
    · rintro unit rfl
      exact bare.2 ⟨unit, rfl, named unit rfl⟩

/-- A plain number over a second is written with a pair of parentheses around nothing, although
neither operand is composite. -/
theorem not_marksShape_scalar :
    let overSecond : Position := { site := .dividend second }
    (overSecond.fill scalar).symbol = "()/s" ∧ ¬overSecond.MarksShape scalar := by
  intro overSecond
  have shown : (overSecond.fill scalar).symbol = "()/s" := rfl
  refine ⟨shown, ?_⟩
  rintro ⟨_, symbols⟩
  have bare : "()/s" = "/s" := shown.symm.trans (symbols _ rfl)
  exact absurd bare (by decide)

end Position

end Metrology.UnitExpr
