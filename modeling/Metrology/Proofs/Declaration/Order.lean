import Mathlib.Data.List.Chain
import Mathlib.Data.List.Perm.Basic
import Metrology.Declaration.Implementation
import Metrology.Proofs.Declaration.Entries

/-!
# Order of entries

A declaration may list its entries in any order. Main statement, for lists with a comma between every
two entries, of any length: where every value is well formed for its key, an implementation is
generated exactly if all keys are known, none comes twice, and a symbol and a dimension are there; any
permutation of the list then generates the same one. Otherwise the first key in reading order that is
unknown or repeats an earlier one decides the fault; only a list without such a key is found to lack
a symbol, and only one with a symbol to lack a dimension.

What is generated is said by the values alone (`Generated`), and why nothing is by the names of the
keys alone (`Refused`). A list without a faulty key is read to its end, with slots that hold its
values; so is the part of a list in front of its first faulty key (`readEntries_clean`).
-/

namespace Metrology.Declaration

/-! ## Well-formed values -/

/-- What may stand behind the value of an entry: nothing, or a comma. -/
def EndsEntry (following : List Token) : Prop :=
  following = [] ∨ ∃ joined rest, following = .mark ',' joined :: rest

/-- Whether an entry sets a value: just its own tokens are read wherever the entry ends. -/
def Entry.Sets (e : Entry) (v : Value) : Prop :=
  ∀ following, EndsEntry following → e.Gives following v

/-- Whether the value of an entry is well formed for its key, if the key is known. -/
def Entry.WellFormed (e : Entry) : Prop :=
  ∀ key : Key, key.name = e.name → ∃ v, e.Sets v

def entries (l : Entries) : List Entry :=
  l.map Prod.fst

def names (l : Entries) : List String :=
  l.map fun p => p.1.name

variable {l rest : Entries} {vs ws : List Value} {v w : Value} {s : Slots} {d d' : UnitDeclaration}
  {name : String} {fault : Fault}

lemma Entry.Sets.key_name {e : Entry} (sets : e.Sets v) : v.key.name = e.name :=
  (sets [] (.inl rfl)).1

lemma Entry.Sets.unique {e : Entry} (sets : e.Sets v) (other : e.Sets w) : v = w := by
  obtain ⟨key_v, read_v⟩ := sets [] (.inl rfl)
  obtain ⟨key_w, read_w⟩ := other [] (.inl rfl)
  rw [Key.name_injective (key_v.trans key_w.symm), read_w] at read_v
  exact (Prod.mk.inj (Except.ok.inj read_v)).1.symm

/-! ## Values of a list -/

/-- Entries with known keys and well-formed values set values. -/
lemma exists_sets (known : ∀ name ∈ names l, ∃ key : Key, key.name = name)
    (wellFormed : ∀ e ∈ entries l, e.WellFormed) :
    ∃ vs, List.Forall₂ Entry.Sets (entries l) vs := by
  induction l with
  | nil => exact ⟨[], .nil⟩
  | cons p l ih =>
    obtain ⟨known_first, known_others⟩ := List.forall_mem_cons.1 known
    obtain ⟨formed_first, formed_others⟩ := List.forall_mem_cons.1 wellFormed
    obtain ⟨key, same⟩ := known_first
    obtain ⟨v, sets⟩ := formed_first key same
    obtain ⟨vs, others⟩ := ih known_others formed_others
    exact ⟨v :: vs, .cons sets others⟩

lemma names_eq_map (l : Entries) : names l = (entries l).map Entry.name :=
  (List.map_map ..).symm

lemma names_of_sets (sets : List.Forall₂ Entry.Sets (entries l) vs) :
    (vs.map Value.key).map Key.name = names l := by
  rw [names_eq_map]
  generalize entries l = es at sets
  induction sets with
  | nil => rfl
  | cons first _ ih => rw [List.map_cons, List.map_cons, List.map_cons, first.key_name, ih]

/-- Where a comma stands between every two entries, an entry without one is the last. -/
lemma endsEntry_of_separated {e : Entry} {comma : Option Bool}
    (separated : CommaSeparated ((e, comma) :: l)) : EndsEntry (separator comma ++ written l) := by
  cases comma with
  | some joined => exact .inr ⟨joined, written l, rfl⟩
  | none =>
    cases l with
    | nil => exact .inl rfl
    | cons p l => exact absurd (List.isChain_cons_cons.1 separated).1 Bool.false_ne_true

lemma gives_of_sets (separated : CommaSeparated (l ++ rest))
    (sets : List.Forall₂ Entry.Sets (entries l) vs) : Gives rest l vs := by
  induction l generalizing vs with
  | nil =>
    cases sets
    exact .nil
  | cons p l ih =>
    cases sets with
    | cons first others =>
      exact .cons (first _ (endsEntry_of_separated separated)) (ih separated.of_cons others)

/-! ## Faults -/

/-- What is wrong with a key that is none of the four. -/
def strangeKey (name : String) : Fault :=
  if isReserved name then .reservedWord name else .unknownKey name

/-- Whether nothing is wrong with any key: all are known and none comes twice. -/
structure Clean (names : List String) : Prop where
  known : ∀ name ∈ names, ∃ key : Key, key.name = name
  distinct : names.Nodup

/-- Whether the keys of a list are those of a complete declaration. -/
structure Complete (names : List String) : Prop where
  clean : Clean names
  symbol : Key.symbol.name ∈ names
  dimension : Key.dimension.name ∈ names

/-- Why a list with the given keys is refused. The first faulty key counts, and only without one does
anything count as missing. -/
inductive Refused : List String → Fault → Prop where
  | unknown {before after : List String} {name : String} (clean : Clean before)
    (strange : ∀ key : Key, key.name ≠ name) : Refused (before ++ name :: after) (strangeKey name)
  | repeated {before after : List String} (key : Key) (clean : Clean before)
    (again : key.name ∈ before) : Refused (before ++ key.name :: after) (.duplicateKey key)
  | noSymbol {names : List String} (clean : Clean names) (absent : Key.symbol.name ∉ names) :
    Refused names (.missingKey .symbol)
  | noDimension {names : List String} (clean : Clean names) (present : Key.symbol.name ∈ names)
    (absent : Key.dimension.name ∉ names) : Refused names (.missingKey .dimension)

/-- A list of keys is clean, or there is a first faulty key. -/
lemma clean_or_refused (names : List String) :
    Clean names ∨ ∃ before name after, names = before ++ name :: after ∧ Clean before ∧
      ((∀ key : Key, key.name ≠ name) ∨ name ∈ before) := by
  induction names using List.reverseRecOn with
  | nil => exact .inl ⟨by simp, List.nodup_nil⟩
  | append_singleton names name ih =>
    rcases ih with clean | ⟨before, other, after, rfl, clean, faulty⟩
    · by_cases fine : (∃ key : Key, key.name = name) ∧ name ∉ names
      · refine .inl ⟨?_, ?_⟩
        · intro other mem
          rcases List.mem_append.1 mem with earlier | last
          · exact clean.known other earlier
          · exact List.mem_singleton.1 last ▸ fine.1
        · rw [← List.concat_eq_append, List.nodup_concat]
          exact ⟨fine.2, clean.distinct⟩
      · rw [not_and_or, not_exists, not_not] at fine
        exact .inr ⟨names, name, [], rfl, clean, fine⟩
    · exact .inr ⟨before, other, after ++ [name], by simp, clean, faulty⟩

/-- A list of keys is complete, or there is a reason to refuse it. -/
lemma complete_or_refused (names : List String) : Complete names ∨ ∃ fault, Refused names fault := by
  rcases clean_or_refused names with clean | ⟨before, name, after, rfl, clean, faulty⟩
  · by_cases symbol : Key.symbol.name ∈ names
    · by_cases dimension : Key.dimension.name ∈ names
      · exact .inl ⟨clean, symbol, dimension⟩
      · exact .inr ⟨_, .noDimension clean symbol dimension⟩
    · exact .inr ⟨_, .noSymbol clean symbol⟩
  · by_cases known : ∃ key : Key, key.name = name
    · obtain ⟨key, rfl⟩ := known
      rcases faulty with strange | again
      · exact absurd rfl (strange key)
      · exact .inr ⟨_, .repeated key clean again⟩
    · exact .inr ⟨_, .unknown clean (not_exists.1 known)⟩

/-! ## Reading -/

/-- A key that is none of the four is refused before its value is looked at. -/
lemma readEntries_strange {e : Entry} (strange : ∀ key : Key, key.name ≠ e.name)
    (following : List Token) (s : Slots) :
    readEntries s (e.tokens ++ following) = .error (strangeKey e.name) := by
  obtain ⟨name, joined, source⟩ := e
  have unknown : Key.ofName? name = none := by
    cases found : Key.ofName? name with
    | none => rfl
    | some key => exact absurd (Key.name_of_ofName? found) (strange key)
  show readEntries s (.word name :: .mark '=' joined :: (source ++ following)) = _
  rw [readEntries, strangeKey]
  split
  · rfl
  · split
    · rfl
    · next key found => rw [unknown] at found; cases found

/-- Entries with different keys are read to their end. -/
lemma readEntries_clean (separated : CommaSeparated (l ++ rest))
    (sets : List.Forall₂ Entry.Sets (entries l) vs) (distinct : (names l).Nodup) :
    ∃ s, s.Holds vs ∧ readEntries {} (written (l ++ rest)) = readEntries s (written rest) := by
  rw [← names_of_sets sets] at distinct
  obtain ⟨s, run, holds⟩ := Slots.putAll_of_nodup distinct.of_map
  refine ⟨s, holds, ?_⟩
  rw [readEntries_written (gives_of_sets separated sets), run]
  rfl

lemma has_iff_name (holds : s.Holds vs) (sets : List.Forall₂ Entry.Sets (entries l) vs) (key : Key) :
    s.has key = true ↔ key.name ∈ names l := by
  rw [holds.has_iff, ← names_of_sets sets]
  exact (List.mem_map_of_injective fun _ _ => Key.name_injective).symm

namespace Slots

lemma exists_finish (symbol : s.has .symbol = true) (dimension : s.has .dimension = true) :
    ∃ d, s.finish = .ok d := by
  obtain ⟨source, has_symbol⟩ := Option.isSome_iff_exists.1 symbol
  obtain ⟨path, has_dimension⟩ := Option.isSome_iff_exists.1 dimension
  rw [finish, has_symbol, has_dimension]
  exact ⟨_, rfl⟩

lemma finish_noSymbol (absent : ¬s.has .symbol = true) :
    s.finish = .error (.missingKey .symbol) := by
  rw [finish, Option.not_isSome_iff_eq_none.1 absent]

lemma finish_noDimension (present : s.has .symbol = true) (absent : ¬s.has .dimension = true) :
    s.finish = .error (.missingKey .dimension) := by
  obtain ⟨source, has_symbol⟩ := Option.isSome_iff_exists.1 present
  rw [finish, has_symbol, Option.not_isSome_iff_eq_none.1 absent]

end Slots

/-- A clean list is read to its end, and then only something can be missing. -/
lemma ofArguments_of_clean (separated : CommaSeparated l)
    (wellFormed : ∀ e ∈ entries l, e.WellFormed) (clean : Clean (names l)) :
    ∃ (vs : List Value) (s : Slots), List.Forall₂ Entry.Sets (entries l) vs ∧ s.Holds vs ∧
      ofArguments (written l) = s.finish := by
  obtain ⟨vs, sets⟩ := exists_sets clean.known wellFormed
  have whole : CommaSeparated (l ++ []) := by rwa [List.append_nil]
  obtain ⟨s, holds, read⟩ := readEntries_clean whole sets clean.distinct
  refine ⟨vs, s, sets, holds, ?_⟩
  rw [List.append_nil, written, readEntries] at read
  rw [ofArguments, read]
  rfl

/-- A complete list is accepted with the values that it sets. -/
lemma ofArguments_of_complete (separated : CommaSeparated l)
    (wellFormed : ∀ e ∈ entries l, e.WellFormed) (complete : Complete (names l)) :
    ∃ vs d, List.Forall₂ Entry.Sets (entries l) vs ∧ Describes d vs ∧
      ofArguments (written l) = .ok d := by
  obtain ⟨vs, s, sets, holds, read⟩ := ofArguments_of_clean separated wellFormed complete.clean
  have symbol : s.has .symbol = true := (has_iff_name holds sets .symbol).2 complete.symbol
  have dimension : s.has .dimension = true :=
    (has_iff_name holds sets .dimension).2 complete.dimension
  obtain ⟨d, finished⟩ := Slots.exists_finish symbol dimension
  exact ⟨vs, d, sets, holds.finish_eq_ok_iff.1 finished, read.trans finished⟩

/-- The part of a list in front of an entry is read if it is clean, and its keys are taken then. -/
lemma exists_entry {before after : List String} (separated : CommaSeparated l)
    (wellFormed : ∀ e ∈ entries l, e.WellFormed) (split : names l = before ++ name :: after)
    (clean : Clean before) :
    ∃ (e : Entry) (following : List Token) (s : Slots), e.name = name ∧ e.WellFormed ∧
      EndsEntry following ∧ (∀ key : Key, s.has key = true ↔ key.name ∈ before) ∧
      readEntries {} (written l) = readEntries s (e.tokens ++ following) := by
  obtain ⟨l₁, m, rfl, rfl, tail⟩ := List.map_eq_append_iff.1 split
  obtain ⟨⟨e, comma⟩, l₂, rfl, rfl, rfl⟩ := List.map_eq_cons_iff.1 tail
  rw [entries, List.map_append, List.forall_mem_append] at wellFormed
  obtain ⟨vs, sets⟩ := exists_sets clean.known wellFormed.1
  obtain ⟨s, holds, read⟩ := readEntries_clean separated sets clean.distinct
  refine ⟨e, _, s, rfl, wellFormed.2 e List.mem_cons_self, ?_, has_iff_name holds sets, read⟩
  exact endsEntry_of_separated separated.right_of_append

/-- Any other list is refused for the reason that applies. -/
lemma ofArguments_of_refused (separated : CommaSeparated l)
    (wellFormed : ∀ e ∈ entries l, e.WellFormed) (refused : Refused (names l) fault) :
    ofArguments (written l) = .error fault := by
  generalize split : names l = all at refused
  cases refused with
  | unknown clean strange =>
    obtain ⟨e, following, s, rfl, _, _, _, read⟩ := exists_entry separated wellFormed split clean
    rw [ofArguments, read, readEntries_strange strange]
    rfl
  | repeated key clean again =>
    obtain ⟨e, following, s, same, formed, ends, taken, read⟩ :=
      exists_entry separated wellFormed split clean
    obtain ⟨v, sets⟩ := formed key same.symm
    have key_v : v.key = key := Key.name_injective (sets.key_name.trans same)
    have refuses : s.put v = .error (.duplicateKey key) := by
      rw [← key_v]
      exact if_pos ((taken v.key).2 (key_v ▸ again))
    rw [ofArguments, read, readEntries_entry (sets following ends), refuses]
    rfl
  | noSymbol clean absent =>
    subst split
    obtain ⟨vs, s, sets, holds, read⟩ := ofArguments_of_clean separated wellFormed clean
    rw [← has_iff_name holds sets] at absent
    exact read.trans (Slots.finish_noSymbol absent)
  | noDimension clean present absent =>
    subst split
    obtain ⟨vs, s, sets, holds, read⟩ := ofArguments_of_clean separated wellFormed clean
    rw [← has_iff_name holds sets] at present absent
    exact read.trans (Slots.finish_noDimension present absent)

/-! ## Permutations -/

lemma Complete.of_perm (complete : Complete (names l)) (same : (entries l).Perm (entries rest)) :
    Complete (names rest) := by
  have keys : (names l).Perm (names rest) := by
    rw [names_eq_map, names_eq_map]
    exact same.map Entry.name
  refine ⟨⟨?_, ?_⟩, ?_, ?_⟩
  · intro name mem
    exact complete.clean.known name (keys.mem_iff.2 mem)
  · exact keys.nodup_iff.1 complete.clean.distinct
  · exact keys.mem_iff.1 complete.symbol
  · exact keys.mem_iff.1 complete.dimension

/-- Permuted entries set permuted values. -/
lemma perm_of_sets (sets : List.Forall₂ Entry.Sets (entries l) vs)
    (sets' : List.Forall₂ Entry.Sets (entries rest) ws)
    (same : (entries l).Perm (entries rest)) : vs.Perm ws := by
  obtain ⟨us, sets_us, perm⟩ := List.perm_comp_forall₂ same sets'
  have unique : Relator.RightUnique Entry.Sets := fun _ _ _ sets other => sets.unique other
  obtain rfl : vs = us := unique.forall₂ sets sets_us
  exact perm

lemma Describes.of_perm (describes : Describes d vs) (same : vs.Perm ws) : Describes d ws where
  symbol := same.mem_iff.1 describes.symbol
  dimension := same.mem_iff.1 describes.dimension
  ratio scale := (describes.ratio scale).trans same.mem_iff
  exponent e := (describes.exponent e).trans same.mem_iff

/-- Values with different keys describe one declaration. -/
lemma Describes.unique (distinct : (vs.map Value.key).Nodup) (describes : Describes d vs)
    (other : Describes d' vs) : d = d' := by
  obtain ⟨s, _, holds⟩ := Slots.putAll_of_nodup distinct
  have finished : s.finish = .ok d := holds.finish_eq_ok_iff.2 describes
  have finished' : s.finish = .ok d' := holds.finish_eq_ok_iff.2 other
  exact Except.ok.inj (finished.symm.trans finished')

/-- A permutation of a complete list is the same declaration. -/
lemma ofArguments_of_perm (separated : CommaSeparated l) (separated' : CommaSeparated rest)
    (wellFormed : ∀ e ∈ entries l, e.WellFormed) (complete : Complete (names l))
    (same : (entries l).Perm (entries rest)) :
    ofArguments (written rest) = ofArguments (written l) := by
  have wellFormed' : ∀ e ∈ entries rest, e.WellFormed := fun e mem =>
    wellFormed e (same.mem_iff.2 mem)
  obtain ⟨vs, d, sets, describes, accepted⟩ :=
    ofArguments_of_complete separated wellFormed complete
  obtain ⟨ws, d', sets', describes', accepted'⟩ :=
    ofArguments_of_complete separated' wellFormed' (complete.of_perm same)
  have distinct : (ws.map Value.key).Nodup := by
    refine List.Nodup.of_map Key.name ?_
    rw [names_of_sets sets']
    exact (complete.of_perm same).clean.distinct
  obtain rfl : d = d' :=
    (describes.of_perm (perm_of_sets sets sets' same)).unique distinct describes'
  rw [accepted, accepted']

/-! ## Generated implementations -/

/-- The expression for the ratio that some values call for: a fraction, a whole number, or one. -/
inductive CallsForRatio (vs : List Value) : List String → Prop where
  | fraction {num den : List Token} (mem : .ratio (.fraction num den) ∈ vs) :
    CallsForRatio vs (["crate", ":", ":", "Ratio", ":", ":", "new", "("] ++ sources num ++ [","]
      ++ sources den ++ [")"])
  | whole {num : List Token} (mem : .ratio (.whole num) ∈ vs) :
    CallsForRatio vs (["crate", ":", ":", "Ratio", ":", ":", "new", "("] ++ sources num
      ++ [",", "1", ")"])
  | one (absent : ∀ scale, .ratio scale ∉ vs) :
    CallsForRatio vs ["crate", ":", ":", "Ratio", ":", ":", "ONE"]

/-- The expression for the power of ten that some values call for: the one that is set, or zero. -/
inductive CallsForExponent (vs : List Value) : List String → Prop where
  | set {expression : List Token} (mem : .exponent expression ∈ vs) :
    CallsForExponent vs (sources expression)
  | zero (absent : ∀ expression, .exponent expression ∉ vs) : CallsForExponent vs ["0"]

/-- The text of the implementation that some values call for. -/
inductive Generated (name : String) (vs : List Value) : String → Prop where
  | of {symbol : Token} {dimension : List Token} {ratio exponent : List String}
    (symbol_mem : .symbol symbol ∈ vs) (dimension_mem : .dimension dimension ∈ vs)
    (ratio_of : CallsForRatio vs ratio) (exponent_of : CallsForExponent vs exponent) :
    Generated name vs (" ".intercalate (
      ["impl", "crate", ":", ":", "Unit", "for", name, "\x7b", "const", "RATIO", ":", "crate", ":",
        ":", "Ratio", "="] ++ ratio ++ [";", "const", "EXPONENT", ":", "i32", "="] ++ exponent
      ++ [";", "type", "Dim", "="] ++ sources dimension
      ++ [";", "const", "SYMBOL", ":", "&", "'", "static", "str", "=", symbol.source, ";",
        "\x7d"]))

lemma callsForRatio_of_describes (describes : Describes d vs) :
    CallsForRatio vs (ratioExpression d.ratio) := by
  have ratio := describes.ratio
  cases declared : d.ratio with
  | none =>
    rw [declared] at ratio
    refine .one fun scale mem => ?_
    cases (ratio scale).2 mem
  | some scale =>
    cases scale with
    | fraction num den => exact .fraction ((ratio _).1 declared)
    | whole num => exact .whole ((ratio _).1 declared)

lemma callsForExponent_of_describes (describes : Describes d vs) :
    CallsForExponent vs (exponentExpression d.exponent) := by
  have exponent := describes.exponent
  cases declared : d.exponent with
  | none =>
    rw [declared] at exponent
    refine .zero fun expression mem => ?_
    cases (exponent expression).2 mem
  | some expression => exact .set ((exponent _).1 declared)

lemma generated_of_describes (name : String) (describes : Describes d vs) :
    Generated name vs (" ".intercalate (d.implementation name)) := by
  have generated : Generated name vs _ := .of describes.symbol describes.dimension
    (callsForRatio_of_describes describes) (callsForExponent_of_describes describes)
  simpa [UnitDeclaration.implementation, ratioPath] using generated

section Listed

variable {attributes : List (List Token)}
  (declared : attributes.findSome? unitArguments? = some (.list (written l)))

include declared

lemma implement_eq_map (name : String) :
    implement name attributes
      = (ofArguments (written l)).map fun d => " ".intercalate (d.implementation name) := by
  rw [implement, ofAttributes, declared]

variable (separated : CommaSeparated l) (wellFormed : ∀ e ∈ entries l, e.WellFormed)

include separated wellFormed

lemma implement_of_complete (complete : Complete (names l)) (name : String) :
    ∃ vs text, List.Forall₂ Entry.Sets (entries l) vs ∧ Generated name vs text ∧
      implement name attributes = .ok text := by
  obtain ⟨vs, d, sets, describes, accepted⟩ :=
    ofArguments_of_complete separated wellFormed complete
  refine ⟨vs, _, sets, generated_of_describes name describes, ?_⟩
  rw [implement_eq_map declared, accepted]
  rfl

lemma implement_of_refused (refused : Refused (names l) fault) (name : String) :
    implement name attributes = .error fault := by
  rw [implement_eq_map declared, ofArguments_of_refused separated wellFormed refused]
  rfl

lemma complete_of_implement {text : String} (accepted : implement name attributes = .ok text) :
    Complete (names l) := by
  refine (complete_or_refused (names l)).resolve_right ?_
  rintro ⟨fault, refused⟩
  rw [implement_of_refused declared separated wellFormed refused] at accepted
  cases accepted

lemma refused_of_implement (failed : implement name attributes = .error fault) :
    Refused (names l) fault := by
  rcases complete_or_refused (names l) with complete | ⟨other, refused⟩
  · obtain ⟨_, _, _, _, accepted⟩ :=
      implement_of_complete declared separated wellFormed complete name
    rw [accepted] at failed
    cases failed
  · rw [implement_of_refused declared separated wellFormed refused] at failed
    cases failed
    exact refused

end Listed

/-- A value is well formed if it is read at the end of the list and in front of any comma. -/
lemma Entry.WellFormed.of_readValue {e : Entry} (v : Value) (key : v.key.name = e.name)
    (last : readValue v.key (e.source ++ []) = .ok (v, []))
    (inside : ∀ joined rest, readValue v.key (e.source ++ .mark ',' joined :: rest)
      = .ok (v, .mark ',' joined :: rest)) : e.WellFormed := by
  intro _ _
  refine ⟨v, ?_⟩
  rintro following (rfl | ⟨joined, rest, rfl⟩)
  · exact ⟨key, last⟩
  · exact ⟨key, inside joined rest⟩

lemma scaleOf_fraction {value inside num den : List Token} (enclosed : enclosed? value = some inside)
    (parts : elements inside = [num, den]) (rest : List Token) :
    scaleOf value rest = .ok (.fraction num den) := by
  simp only [scaleOf, enclosed, parts]

lemma readValue_ratio {tokens value rest : List Token} {scale : Scale}
    (extent : expression tokens = .ok (value, rest)) (declares : scaleOf value rest = .ok scale) :
    readValue .ratio tokens = .ok (.ratio scale, rest) := by
  simp only [readValue, extent, declares, bind, Except.bind, pure, Except.pure]

end Metrology.Declaration
