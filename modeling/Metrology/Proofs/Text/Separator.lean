import Mathlib.Data.List.Basic

/-!
# Separators

What a separator tells about a text. Parts that do not contain it can be read off a text: the part in
front of the first one (`append_injective_of_stops`), and all parts of a text that is joined by it
(`intercalate_injective`). A part that may be left out is read off as well if it begins with a mark
(`suffix_injective`). The digits of an integer, with the minus sign, contain none of the usual
separators (`mem_repr`).
-/

namespace Metrology.Text

variable {α : Type} {p : α → Prop} {a b r s : List α}

/-- Two texts that agree have the same first part and the same rest, if the parts hold none of the
elements that the rests begin with. -/
lemma append_injective_of_stops (free_a : ∀ c ∈ a, ¬p c) (free_b : ∀ c ∈ b, ¬p c)
    (stop_r : ∀ c ∈ r.head?, p c) (stop_s : ∀ c ∈ s.head?, p c) (same : a ++ r = b ++ s) :
    a = b ∧ r = s := by
  induction a generalizing b with
  | nil =>
    cases b with
    | nil => exact ⟨rfl, same⟩
    | cons c b =>
      rw [List.nil_append] at same
      exact absurd (stop_r c (by rw [same]; rfl)) (free_b c List.mem_cons_self)
  | cons c a ih =>
    cases b with
    | nil =>
      rw [List.nil_append] at same
      exact absurd (stop_s c (by rw [← same]; rfl)) (free_a c List.mem_cons_self)
    | cons d b =>
      obtain ⟨rfl, tails⟩ := List.cons.inj same
      obtain ⟨rfl, rests⟩ := ih (fun x mem => free_a x (List.mem_cons_of_mem _ mem))
        (fun x mem => free_b x (List.mem_cons_of_mem _ mem)) tails
      exact ⟨rfl, rests⟩

/-- Texts that are joined by a separator are those of the joined text, if there are any and none
contains the separator. -/
lemma intercalate_injective {c : Char} {l m : List String} (filled_l : l ≠ []) (filled_m : m ≠ [])
    (free_l : ∀ t ∈ l, c ∉ t.toList) (free_m : ∀ t ∈ m, c ∉ t.toList)
    (same : (String.singleton c).intercalate l = (String.singleton c).intercalate m) : l = m := by
  have parts {k : List String} (filled : k ≠ []) (free : ∀ t ∈ k, c ∉ t.toList) :
      ((String.singleton c).intercalate k).toList.splitOn c = k.map String.toList := by
    rw [String.toList_intercalate, String.toList_singleton]
    apply List.splitOn_intercalate
    · simpa using free
    · simpa using filled
  have lists := parts filled_l free_l
  rw [same, parts filled_m free_m] at lists
  exact List.map_injective_iff.2 (fun _ _ => String.toList_inj.1) lists.symm

/-! ## Parts that may be left out -/

section Suffix

variable [DecidableEq α]

/-- A part behind a mark, left out if it has the usual value. -/
def suffix (usual : α) (mark : Char) (write : α → String) (x : α) : List Char :=
  if x = usual then [] else mark :: (write x).toList

variable {usual x y : α} {mark c : Char} {write : α → String}

lemma suffix_usual : suffix usual mark write usual = [] :=
  if_pos rfl

lemma suffix_of_ne (other : x ≠ usual) :
    suffix usual mark write x = mark :: (write x).toList :=
  if_neg other

lemma mem_suffix (mem : c ∈ suffix usual mark write x) : c = mark ∨ c ∈ (write x).toList := by
  by_cases left : x = usual
  · rw [left, suffix_usual] at mem
    cases mem
  · rw [suffix_of_ne left] at mem
    exact List.mem_cons.1 mem

lemma eq_mark_of_head?_suffix (first : c ∈ (suffix usual mark write x).head?) : c = mark := by
  by_cases left : x = usual
  · rw [left, suffix_usual] at first
    cases first
  · rw [suffix_of_ne left] at first
    exact (Option.some.inj first).symm

/-- A part that is left out has the usual value, and the others are told by what is written. -/
lemma suffix_injective (injective : Function.Injective write)
    (same : suffix usual mark write x = suffix usual mark write y) : x = y := by
  by_cases left_x : x = usual
  · by_cases left_y : y = usual
    · exact left_x.trans left_y.symm
    · rw [left_x, suffix_usual, suffix_of_ne left_y] at same
      cases same
  · by_cases left_y : y = usual
    · rw [left_y, suffix_usual, suffix_of_ne left_x] at same
      cases same
    · rw [suffix_of_ne left_x, suffix_of_ne left_y] at same
      exact injective (String.toList_inj.1 (List.cons.inj same).2)

end Suffix

/-! ## Numerals -/

variable {c : Char}

/-- A natural number is written with digits. -/
lemma isDigit_of_mem_repr {k : Nat} (mem : c ∈ k.repr.toList) : c.isDigit = true := by
  rw [Nat.repr_eq_ofList_toDigits, String.toList_ofList] at mem
  exact Nat.isDigit_of_mem_toDigits (by decide) (by decide) mem

/-- An integer is written with digits, behind a minus sign if it is negative. -/
lemma mem_repr {n : Int} (mem : c ∈ n.repr.toList) : c = '-' ∨ c.isDigit = true := by
  rw [Int.repr_eq_if] at mem
  split at mem
  · exact .inr (isDigit_of_mem_repr mem)
  · rw [String.toList_append] at mem
    exact (List.mem_append.1 mem).imp List.mem_singleton.1 isDigit_of_mem_repr

end Metrology.Text
