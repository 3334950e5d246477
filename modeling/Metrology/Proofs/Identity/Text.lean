import Mathlib
import Metrology.Identity
import Metrology.Proofs.Text.Separator

/-!
# Reading an identity

The texts of ratios, dimensions and identities are unambiguous: each of them determines what it is
the text of (`Ratio.text_injective`, `Dimension.text_injective`, `Identity.text_injective`). A text
is taken apart from the left, at the first character that the part in front cannot contain: the slash
behind a numerator, the blanks behind a ratio and behind the power of ten. The factors of a dimension
are separated by dots, and each of them tells one base quantity and its exponent; a lone `1` is no
factor.
-/

namespace Metrology

/-! ## Ratios -/

namespace Ratio

variable {a b r : Ratio} {c : Char}

lemma toList_text (r : Ratio) :
    r.text.toList = r.num.repr.toList ++ Text.suffix 1 '/' Nat.repr r.den := by
  by_cases one : r.den = 1
  · rw [text, if_pos one, one, Text.suffix_usual, List.append_nil]
  · rw [text, if_neg one, Text.suffix_of_ne one, String.toList_append, String.toList_append,
      List.append_assoc]
    rfl

lemma mem_text (mem : c ∈ r.text.toList) : c = '-' ∨ c = '/' ∨ c.isDigit = true := by
  rw [toList_text] at mem
  rcases List.mem_append.1 mem with num | den
  · exact (Text.mem_repr num).imp_right .inr
  · exact .inr ((Text.mem_suffix den).imp_right Text.isDigit_of_mem_repr)

/-- A ratio is determined by its text. -/
theorem text_injective : Function.Injective text := by
  intro a b same
  have slashless (n : Int) : ∀ c ∈ n.repr.toList, ¬c = '/' := by
    rintro _ mem rfl
    exact absurd (Text.mem_repr mem) (by decide)
  have lists := congrArg String.toList same
  rw [toList_text, toList_text] at lists
  obtain ⟨nums, dens⟩ := Text.append_injective_of_stops (slashless a.num) (slashless b.num)
    (fun _ => Text.eq_mark_of_head?_suffix) (fun _ => Text.eq_mark_of_head?_suffix) lists
  have num : a.num = b.num := Int.repr_injective (String.toList_inj.1 nums)
  exact ext num (Text.suffix_injective (fun _ _ => Nat.repr_injective) dens)

end Ratio

lemma Exponent.text_injective : Function.Injective Exponent.text :=
  fun _ _ same => Exponent.ext (Int.repr_injective same)

/-! ## Dimensions -/

lemma BaseQuantity.length_symbol (q : BaseQuantity) : q.symbol.toList.length = 1 := by
  cases q <;> rfl

lemma BaseQuantity.symbol_injective : Function.Injective BaseQuantity.symbol := by
  intro p q same
  cases p <;> cases q <;> first | rfl | exact absurd same (by decide)

namespace Dimension

variable {a b d : Dimension} {p q : BaseQuantity} {e f : Exponent} {t : String} {c : Char}

/-! ### One factor -/

lemma toList_factorText (q : BaseQuantity) (e : Exponent) :
    (factorText q e).toList = q.symbol.toList ++ Text.suffix .one '^' Exponent.text e := by
  by_cases one : e = .one
  · rw [factorText, if_pos one, one, Text.suffix_usual, List.append_nil]
  · rw [factorText, if_neg one, Text.suffix_of_ne one, String.toList_append, String.toList_append,
      List.append_assoc]
    rfl

/-- A factor tells its base quantity and its exponent. -/
lemma factorText_injective (same : factorText p e = factorText q f) : p = q ∧ e = f := by
  have lists := congrArg String.toList same
  rw [toList_factorText, toList_factorText] at lists
  have long : p.symbol.toList.length = q.symbol.toList.length := by
    rw [p.length_symbol, q.length_symbol]
  obtain ⟨symbols, exponents⟩ := List.append_inj lists long
  exact ⟨BaseQuantity.symbol_injective (String.toList_inj.1 symbols),
    Text.suffix_injective Exponent.text_injective exponents⟩

lemma dot_not_mem_factorText : '·' ∉ (factorText q e).toList := by
  intro mem
  rw [toList_factorText] at mem
  rcases List.mem_append.1 mem with symbol | exponent
  · revert symbol
    cases q <;> decide
  · rcases Text.mem_suffix exponent with mark | digits
    · exact absurd mark (by decide)
    · exact absurd (Text.mem_repr digits) (by decide)

lemma factorText_ne_one : factorText q e ≠ "1" := by
  intro same
  have lists : (factorText q e).toList = ['1'] ++ [] := congrArg String.toList same
  rw [toList_factorText] at lists
  have symbol := (List.append_inj lists q.length_symbol).1
  revert symbol
  cases q <;> decide

/-! ### All factors -/

lemma exponent_dimensionless (q : BaseQuantity) : dimensionless.exponent q = .zero :=
  PerBase.get_ofFn (fun _ => Exponent.zero) q

/-- What is joined by dots: the factors, or a lone `1`. -/
def items (d : Dimension) : List String :=
  if d.isDimensionless then ["1"]
  else BaseQuantity.all.filterMap fun q =>
    if d.exponent q = .zero then none else some (factorText q (d.exponent q))

lemma text_eq_intercalate (d : Dimension) : d.text = (String.singleton '·').intercalate d.items := by
  unfold text items
  split
  · rw [String.intercalate_singleton]
  · rfl

lemma mem_items (mem : t ∈ d.items) : t = "1" ∨ ∃ q, t = factorText q (d.exponent q) := by
  unfold items at mem
  split at mem
  · exact .inl (List.mem_singleton.1 mem)
  · obtain ⟨q, _, written⟩ := List.mem_filterMap.1 mem
    split at written
    · cases written
    · exact .inr ⟨q, (Option.some.inj written).symm⟩

/-- The factors that are written are those whose exponent is not zero. -/
lemma factorText_mem_items : factorText q e ∈ d.items ↔ e ≠ .zero ∧ d.exponent q = e := by
  unfold items
  split
  · rename_i plain
    have zero : d.exponent q = .zero := by
      rw [eq_of_beq plain, exponent_dimensionless]
    rw [zero, List.mem_singleton]
    exact iff_of_false factorText_ne_one (fun factor => factor.1 factor.2.symm)
  · rw [List.mem_filterMap]
    constructor
    · rintro ⟨p, _, written⟩
      split at written
      · cases written
      · rename_i nonzero
        obtain ⟨rfl, rfl⟩ := factorText_injective (Option.some.inj written)
        exact ⟨nonzero, rfl⟩
    · rintro ⟨nonzero, rfl⟩
      exact ⟨q, q.mem_all, if_neg nonzero⟩

lemma items_ne_nil (d : Dimension) : d.items ≠ [] := by
  intro empty
  have zero (q : BaseQuantity) : d.exponent q = .zero := by
    by_contra nonzero
    have factor : factorText q (d.exponent q) ∈ d.items := factorText_mem_items.2 ⟨nonzero, rfl⟩
    rw [empty] at factor
    cases factor
  have plain : d = dimensionless :=
    Dimension.ext fun q => (zero q).trans (exponent_dimensionless q).symm
  rw [items, plain] at empty
  cases empty

lemma dot_not_mem_items : ∀ t ∈ d.items, '·' ∉ t.toList := by
  intro t mem
  rcases mem_items mem with rfl | ⟨q, rfl⟩
  · decide
  · exact dot_not_mem_factorText

lemma eq_of_items_eq (same : a.items = b.items) : a = b := by
  have factors (q : BaseQuantity) (e : Exponent) :
      (e ≠ .zero ∧ a.exponent q = e) ↔ (e ≠ .zero ∧ b.exponent q = e) := by
    rw [← factorText_mem_items, same, factorText_mem_items]
  refine Dimension.ext fun q => ?_
  by_cases zero_a : a.exponent q = .zero
  · by_cases zero_b : b.exponent q = .zero
    · rw [zero_a, zero_b]
    · exact ((factors q _).2 ⟨zero_b, rfl⟩).2
  · exact ((factors q _).1 ⟨zero_a, rfl⟩).2.symm

/-- A dimension is determined by its text. -/
theorem text_injective : Function.Injective text := by
  intro a b same
  rw [text_eq_intercalate, text_eq_intercalate] at same
  exact eq_of_items_eq
    (Text.intercalate_injective a.items_ne_nil b.items_ne_nil dot_not_mem_items dot_not_mem_items
      same)

end Dimension

/-! ## Identities -/

namespace Identity

lemma toList_text (i : Identity) :
    i.text.toList =
      i.ratio.text.toList ++ ' ' :: ("× 10^".toList ++
        (i.exponent.text.toList ++ ' ' :: '[' :: (i.dimension.text.toList ++ [']']))) := by
  have scale : " × 10^".toList = ' ' :: "× 10^".toList := rfl
  have bracket : " [".toList = [' ', '['] := rfl
  have closing : "]".toList = [']'] := rfl
  simp only [text, String.toList_append, scale, bracket, closing, List.append_assoc,
    List.cons_append, List.nil_append]

/-- An identity is determined by its text. -/
theorem text_injective : Function.Injective text := by
  intro a b same
  have ratioBlankless (r : Ratio) : ∀ c ∈ r.text.toList, ¬c = ' ' := by
    rintro _ mem rfl
    exact absurd (Ratio.mem_text mem) (by decide)
  have exponentBlankless (e : Exponent) : ∀ c ∈ e.text.toList, ¬c = ' ' := by
    rintro _ mem rfl
    exact absurd (Text.mem_repr mem) (by decide)
  have blank (l : List Char) : ∀ c ∈ (' ' :: l).head?, c = ' ' := by
    intro c first
    exact (Option.some.inj first).symm
  have lists := congrArg String.toList same
  rw [toList_text, toList_text] at lists
  obtain ⟨ratios, rest⟩ := Text.append_injective_of_stops (ratioBlankless a.ratio)
    (ratioBlankless b.ratio) (blank _) (blank _) lists
  obtain ⟨exponents, rest⟩ := Text.append_injective_of_stops (exponentBlankless a.exponent)
    (exponentBlankless b.exponent) (blank _) (blank _)
    (List.append_cancel_left (List.cons.inj rest).2)
  have brackets := (List.cons.inj (List.cons.inj rest).2).2
  have dimensions := List.append_cancel_right brackets
  exact Identity.ext (Ratio.text_injective (String.toList_inj.1 ratios))
    (Exponent.text_injective (String.toList_inj.1 exponents))
    (Dimension.text_injective (String.toList_inj.1 dimensions))

end Identity

end Metrology
