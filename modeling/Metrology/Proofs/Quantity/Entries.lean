import Mathlib.Data.List.Induction
import Mathlib.Data.List.Nodup
import Metrology.Quantity.Exchange

/-!
# Which entries are accepted

An object is read entry by entry, and many things can be wrong with it at once: unknown keys,
repeated keys, values of the wrong type, no number, another unit. Main statements, for lists of
entries of any length: an object is accepted exactly if none of this is the case, whatever the order
of its entries (`ofEntries_result_eq_ok_iff`), and otherwise the first entry that is wrong by itself
or repeats an earlier key decides the fault; only an object without such an entry is found to lack a
number, and only one with a number to be in another unit (`ofEntries_result_eq_error_iff`). The
other unit is the one fault that is recorded (`notices_ofEntries`).

What is wrong with an entry depends on the keys before it only (`Faulty`). The two slots of the
reader remember less than that, and the invariant `Holds` says that it is enough. One entry keeps it
(`readEntry_of_faultless`), so a faultless list does, and the first faulty entry is the one that the
reader stops at.
-/

namespace Metrology.Exchange

open Json (Found)

def keys (entries : List (String × Found)) : List String :=
  entries.map Prod.fst

/-- What is wrong with an entry behind entries with the given keys. An unknown key is noticed first,
a repeated one before its value is looked at. -/
inductive Faulty (earlier : List String) : String × Found → DataFault → Prop where
  | unknown {name : String} (found : Found) (value : name ≠ "value") (unit : name ≠ "unit") :
    Faulty earlier (name, found) (.unknownField name)
  | repeated (field : Field) (found : Found) (seen : field.name ∈ earlier) :
    Faulty earlier (field.name, found) (.duplicateField field)
  | value {found : Found} (fresh : "value" ∉ earlier) (wrong : ∀ n, found ≠ .number n) :
    Faulty earlier ("value", found) (.wrongType found .number)
  | unit {found : Found} (fresh : "unit" ∉ earlier) (wrong : ∀ s, found ≠ .string s) :
    Faulty earlier ("unit", found) (.wrongType found .text)

/-- Whether an entry has one of the two keys and a value of the type that belongs to it. -/
def WellTyped (entry : String × Found) : Prop :=
  (entry.1 = "value" ∧ ∃ n, entry.2 = .number n) ∨ (entry.1 = "unit" ∧ ∃ s, entry.2 = .string s)

/-- Whether nothing is wrong with any entry, in its place. -/
def Faultless (entries : List (String × Found)) : Prop :=
  ∀ before entry after, entries = before ++ entry :: after →
    ∀ fault, ¬Faulty (keys before) entry fault

/-- The fault of the first entry, in reading order, with which something is wrong. -/
def FirstFault (entries : List (String × Found)) (fault : DataFault) : Prop :=
  ∃ before entry after, entries = before ++ entry :: after ∧ Faultless before ∧
    Faulty (keys before) entry fault

variable {entries before after : List (String × Found)} {entry : String × Found}
  {fault : DataFault} {s t : Slots} {symbol : String}

/-! ## One entry -/

/-- An entry is not faulty if its key is new and known and its value has the type of the key. -/
lemma not_faulty_iff {earlier : List String} :
    (∀ fault, ¬Faulty earlier entry fault) ↔ entry.1 ∉ earlier ∧ WellTyped entry := by
  obtain ⟨name, found⟩ := entry
  constructor
  · intro faultless
    by_cases value : name = "value"
    · subst value
      have fresh : "value" ∉ earlier := fun seen => faultless _ (.repeated .value found seen)
      refine ⟨fresh, .inl ⟨rfl, ?_⟩⟩
      by_contra wrong
      exact faultless _ (.value fresh (not_exists.1 wrong))
    · by_cases unit : name = "unit"
      · subst unit
        have fresh : "unit" ∉ earlier := fun seen => faultless _ (.repeated .unit found seen)
        refine ⟨fresh, .inr ⟨rfl, ?_⟩⟩
        by_contra wrong
        exact faultless _ (.unit fresh (not_exists.1 wrong))
      · exact absurd (.unknown found value unit) (faultless _)
  · rintro ⟨fresh, typed⟩ fault faulty
    cases faulty with
    | unknown _ value unit =>
      rcases typed with ⟨rfl, _⟩ | ⟨rfl, _⟩
      · exact value rfl
      · exact unit rfl
    | repeated _ _ seen => exact fresh seen
    | value _ wrong =>
      rcases typed with ⟨_, n, number⟩ | ⟨other, _⟩
      · exact wrong n number
      · exact absurd other (show "value" ≠ "unit" by decide)
    | unit _ wrong =>
      rcases typed with ⟨other, _⟩ | ⟨_, s, string⟩
      · exact absurd other (show "unit" ≠ "value" by decide)
      · exact wrong s string

/-- What the slots say about the entries read so far. -/
structure Holds (s : Slots) (entries : List (String × Found)) : Prop where
  value : ∀ x, s.value = some x ↔ ∃ n, ("value", .number n) ∈ entries ∧ x = n.toFloat
  unit : ∀ text, s.unit = some text ↔ ("unit", .string text) ∈ entries
  value_seen : s.value.isSome ↔ "value" ∈ keys entries
  unit_seen : s.unit.isSome ↔ "unit" ∈ keys entries

lemma holds_nil : Holds {} [] := by
  constructor <;> simp [keys]

def Slots.readEntry (s : Slots) (entry : String × Found) : Except DataFault Slots :=
  (s.openField entry.1).bind fun field => s.fill field entry.2

lemma readEntries_cons (s : Slots) (entry : String × Found) (rest : List (String × Found)) :
    s.readEntries (entry :: rest) = (s.readEntry entry).bind (·.readEntries rest) := by
  obtain ⟨name, found⟩ := entry
  rw [Slots.readEntries, Slots.readEntry]
  cases s.openField name with
  | error fault => rfl
  | ok field =>
    dsimp only [Except.bind]
    cases s.fill field found with
    | error fault => rfl
    | ok next => rfl

lemma readEntries_append (s : Slots) (before after : List (String × Found)) :
    s.readEntries (before ++ after) = (s.readEntries before).bind (·.readEntries after) := by
  induction before generalizing s with
  | nil => rfl
  | cons entry rest ih =>
    rw [List.cons_append, readEntries_cons, readEntries_cons]
    cases s.readEntry entry with
    | error fault => rfl
    | ok next => exact ih next

lemma openField_fresh (field : Field) (holds : Holds s before) (fresh : field.name ∉ keys before) :
    s.openField field.name = .ok field := by
  cases field with
  | value =>
    rw [Slots.openField, if_pos rfl, if_neg (mt holds.value_seen.1 fresh)]
  | unit =>
    rw [Slots.openField, if_neg (show Field.unit.name ≠ Field.value.name by decide), if_pos rfl,
      if_neg (mt holds.unit_seen.1 fresh)]

lemma openField_seen (field : Field) (holds : Holds s before) (seen : field.name ∈ keys before) :
    s.openField field.name = .error (.duplicateField field) := by
  cases field with
  | value =>
    rw [Slots.openField, if_pos rfl, if_pos (holds.value_seen.2 seen)]
  | unit =>
    rw [Slots.openField, if_neg (show Field.unit.name ≠ Field.value.name by decide), if_pos rfl,
      if_pos (holds.unit_seen.2 seen)]

/-- The reader stops at a faulty entry, with its fault. -/
lemma readEntry_of_faulty (holds : Holds s before) (faulty : Faulty (keys before) entry fault) :
    s.readEntry entry = .error fault := by
  cases faulty with
  | @unknown name found value unit =>
    have opened : s.openField name = .error (.unknownField name) := by
      rw [Slots.openField, if_neg (show name ≠ Field.value.name from value),
        if_neg (show name ≠ Field.unit.name from unit)]
    rw [Slots.readEntry, opened]
    rfl
  | repeated field found seen =>
    rw [Slots.readEntry, openField_seen field holds seen]
    rfl
  | @value found fresh wrong =>
    have opened : s.openField "value" = .ok .value := openField_fresh .value holds fresh
    have filled : s.fill .value found = .error (.wrongType found .number) := by
      cases found with
      | number n => exact absurd rfl (wrong n)
      | _ => rfl
    rw [Slots.readEntry, opened]
    exact filled
  | @unit found fresh wrong =>
    have opened : s.openField "unit" = .ok .unit := openField_fresh .unit holds fresh
    have filled : s.fill .unit found = .error (.wrongType found .text) := by
      cases found with
      | string text => exact absurd rfl (wrong text)
      | _ => rfl
    rw [Slots.readEntry, opened]
    exact filled

/-- The reader stores an entry with which nothing is wrong. -/
lemma readEntry_of_faultless (holds : Holds s before)
    (faultless : ∀ fault, ¬Faulty (keys before) entry fault) :
    ∃ t, s.readEntry entry = .ok t ∧ Holds t (before ++ [entry]) := by
  obtain ⟨name, found⟩ := entry
  obtain ⟨fresh, ⟨rfl, n, rfl⟩ | ⟨rfl, text, rfl⟩⟩ := not_faulty_iff.1 faultless
  · have opened : s.openField "value" = .ok .value := openField_fresh .value holds fresh
    have none_before : ∀ m, ("value", Found.number m) ∉ before :=
      fun m mem => fresh (List.mem_map.2 ⟨_, mem, rfl⟩)
    refine ⟨{ s with value := some n.toFloat }, ?_, ?_, ?_, ?_, ?_⟩
    · rw [Slots.readEntry, opened]
      rfl
    · intro x
      simp [none_before, eq_comm]
    · intro text
      simp [holds.unit text]
    · simp [keys]
    · simp [keys, holds.unit_seen]
  · have opened : s.openField "unit" = .ok .unit := openField_fresh .unit holds fresh
    have none_before : ∀ other, ("unit", Found.string other) ∉ before :=
      fun other mem => fresh (List.mem_map.2 ⟨_, mem, rfl⟩)
    refine ⟨{ s with unit := some text }, ?_, ?_, ?_, ?_, ?_⟩
    · rw [Slots.readEntry, opened]
      rfl
    · intro x
      simp [holds.value x]
    · intro other
      simp [none_before, eq_comm]
    · simp [keys, holds.value_seen]
    · simp [keys]

/-! ## Whole lists -/

lemma faultless_append_iff :
    Faultless (before ++ [entry]) ↔
      Faultless before ∧ ∀ fault, ¬Faulty (keys before) entry fault := by
  constructor
  · intro faultless
    refine ⟨?_, faultless before entry [] rfl⟩
    intro earlier other later split
    exact faultless earlier other (later ++ [entry]) (by rw [split]; simp)
  · rintro ⟨faultless, last⟩ earlier other later split
    -- the split is at the last entry, or it is one of the entries before
    rcases List.eq_nil_or_concat later with rfl | ⟨later', final, rfl⟩
    · obtain ⟨rfl, entries⟩ := List.append_inj' split rfl
      obtain ⟨rfl, _⟩ := List.cons.inj entries
      exact last
    · rw [List.concat_eq_append] at split
      have parts : before ++ [entry] = (earlier ++ other :: later') ++ [final] := by
        rw [split]
        simp
      obtain ⟨rfl, _⟩ := List.append_inj' parts rfl
      exact faultless earlier other later' rfl

/-- Without a faulty entry, reading ends with slots that say what was read. The induction adds an
entry at the end, since what is wrong with it depends on all the keys before. -/
lemma readEntries_of_faultless (faultless : Faultless entries) :
    ∃ t, Slots.readEntries {} entries = .ok t ∧ Holds t entries := by
  induction entries using List.reverseRecOn with
  | nil => exact ⟨{}, rfl, holds_nil⟩
  | append_singleton before entry ih =>
    obtain ⟨faultless_before, last⟩ := faultless_append_iff.1 faultless
    obtain ⟨s, read, holds⟩ := ih faultless_before
    obtain ⟨t, stored, holds_t⟩ := readEntry_of_faultless holds last
    refine ⟨t, ?_, holds_t⟩
    rw [readEntries_append, read]
    show s.readEntries [entry] = .ok t
    rw [readEntries_cons, stored]
    rfl

/-- The first faulty entry decides the fault. -/
lemma readEntries_of_firstFault (first : FirstFault entries fault) :
    Slots.readEntries {} entries = .error fault := by
  obtain ⟨before, entry, after, rfl, faultless, faulty⟩ := first
  obtain ⟨s, read, holds⟩ := readEntries_of_faultless faultless
  rw [readEntries_append, read]
  show s.readEntries (entry :: after) = .error fault
  rw [readEntries_cons, readEntry_of_faulty holds faulty]
  rfl

/-- Either something is wrong with an entry or nothing is with any. -/
lemma faultless_or_firstFault (entries : List (String × Found)) :
    Faultless entries ∨ ∃ fault, FirstFault entries fault := by
  induction entries using List.reverseRecOn with
  | nil =>
    left
    intro before entry after split
    simp at split
  | append_singleton before entry ih =>
    rcases ih with faultless | ⟨fault, earlier, other, later, rfl, faultless, faulty⟩
    · by_cases last : ∃ fault, Faulty (keys before) entry fault
      · obtain ⟨fault, faulty⟩ := last
        exact .inr ⟨fault, before, entry, [], rfl, faultless, faulty⟩
      · exact .inl (faultless_append_iff.2 ⟨faultless, not_exists.1 last⟩)
    · exact .inr ⟨fault, earlier, other, later ++ [entry], by simp, faultless, faulty⟩

/-- Nothing is wrong with any entry exactly if no key is repeated and every entry is well typed. -/
lemma faultless_iff :
    Faultless entries ↔ (keys entries).Nodup ∧ ∀ entry ∈ entries, WellTyped entry := by
  induction entries using List.reverseRecOn with
  | nil =>
    simp only [keys, List.map_nil, List.nodup_nil, List.not_mem_nil, false_implies, implies_true,
      and_self, iff_true]
    intro before entry after split
    simp at split
  | append_singleton before entry ih =>
    have keys_split : keys (before ++ [entry]) = keys before ++ [entry.1] := by simp [keys]
    rw [faultless_append_iff, ih, not_faulty_iff, keys_split, ← List.concat_eq_append,
      List.nodup_concat, List.forall_mem_append, List.forall_mem_singleton]
    tauto

/-! ## Complete objects -/

/-- An object is accepted with the number `x` if it has no keys but the two, none of them twice, the
number under `value`, and under `unit`, if it is there, the symbol. -/
structure Accepted (symbol : String) (entries : List (String × Found)) (x : Float) : Prop where
  known : ∀ name ∈ keys entries, name = "value" ∨ name = "unit"
  distinct : (keys entries).Nodup
  number : ∃ n, ("value", .number n) ∈ entries ∧ x = n.toFloat
  unit : ∀ found, ("unit", found) ∈ entries → found = .string symbol

/-- Why an object is refused. The later reasons presuppose that the earlier ones do not apply. -/
inductive Refused (symbol : String) (entries : List (String × Found)) : DataFault → Prop where
  | entry {fault : DataFault} (first : FirstFault entries fault) : Refused symbol entries fault
  | missing (faultless : Faultless entries) (absent : "value" ∉ keys entries) :
    Refused symbol entries .missingValue
  | foreign {other : String} (faultless : Faultless entries) (present : "value" ∈ keys entries)
    (unit : ("unit", .string other) ∈ entries) (differs : other ≠ symbol) :
    Refused symbol entries (.foreignUnit symbol other)

/-- What a refusal records: another unit, and nothing else. -/
def noticesOf {α : Type} : Except DataFault α → List Notice
  | .error (.foreignUnit expected found) => [.foreignSymbol expected found]
  | _ => []

lemma Accepted.of_perm {other : List (String × Found)} {x : Float}
    (accepted : Accepted symbol entries x) (same : entries.Perm other) :
    Accepted symbol other x where
  known name mem := accepted.known name ((same.map Prod.fst).mem_iff.2 mem)
  distinct := (same.map Prod.fst).nodup_iff.1 accepted.distinct
  number :=
    let ⟨n, mem, x_eq⟩ := accepted.number
    ⟨n, same.mem_iff.1 mem, x_eq⟩
  unit found mem := accepted.unit found (same.mem_iff.2 mem)

/-- With distinct keys, a key has one value. -/
lemma found_unique {name : String} {found other : Found} (distinct : (keys entries).Nodup)
    (mem : (name, found) ∈ entries) (mem_other : (name, other) ∈ entries) : found = other := by
  induction entries with
  | nil => cases mem
  | cons entry rest ih =>
    obtain ⟨fresh, distinct_rest⟩ := List.nodup_cons.1 distinct
    have not_again : ∀ found, (entry.1, found) ∉ rest :=
      fun found mem => fresh (List.mem_map.2 ⟨_, mem, rfl⟩)
    rcases List.mem_cons.1 mem with rfl | mem_rest
    · rcases List.mem_cons.1 mem_other with same | other_rest
      · exact (Prod.mk.inj same).2.symm
      · exact absurd other_rest (not_again other)
    · rcases List.mem_cons.1 mem_other with rfl | other_rest
      · exact absurd mem_rest (not_again found)
      · exact ih distinct_rest mem_rest other_rest

lemma Accepted.faultless {x : Float} (accepted : Accepted symbol entries x) :
    Faultless entries := by
  refine faultless_iff.2 ⟨accepted.distinct, ?_⟩
  rintro ⟨name, found⟩ mem
  rcases accepted.known name (List.mem_map.2 ⟨_, mem, rfl⟩) with rfl | rfl
  · obtain ⟨n, number, _⟩ := accepted.number
    exact .inl ⟨rfl, n, found_unique accepted.distinct mem number⟩
  · exact .inr ⟨rfl, symbol, accepted.unit found mem⟩

/-- An object with the number and without another unit is read. -/
lemma ofEntries_of_accepted {x : Float} (accepted : Accepted symbol entries x) :
    ofEntries symbol entries = .accept x := by
  obtain ⟨slots, read, holds⟩ := readEntries_of_faultless accepted.faultless
  have value : slots.value = some x := (holds.value x).2 accepted.number
  have finished : slots.finish symbol = .accept x := by
    cases unit : slots.unit with
    | none => rw [Slots.finish, value, unit]
    | some found =>
      have same : found = symbol :=
        Found.string.inj (accepted.unit _ ((holds.unit found).1 unit))
      rw [Slots.finish, value, unit]
      exact if_pos same
  rw [ofEntries, read]
  exact finished

/-- Any other object is refused for the reason that applies to it. -/
lemma ofEntries_of_refused (refused : Refused symbol entries fault) :
    ofEntries symbol entries =
      ⟨.error fault, noticesOf (.error fault : Except DataFault Float)⟩ := by
  cases refused with
  | entry first =>
    have quiet : noticesOf (.error fault : Except DataFault Float) = [] := by
      obtain ⟨_, _, _, _, _, faulty⟩ := first
      cases faulty <;> rfl
    rw [ofEntries, readEntries_of_firstFault first, quiet]
    rfl
  | missing faultless absent =>
    obtain ⟨slots, read, holds⟩ := readEntries_of_faultless faultless
    have value : slots.value = none := by
      rw [← Option.not_isSome_iff_eq_none, holds.value_seen]
      exact absent
    rw [ofEntries, read]
    show slots.finish symbol = _
    rw [Slots.finish, value]
    rfl
  | @foreign other faultless present unit differs =>
    obtain ⟨slots, read, holds⟩ := readEntries_of_faultless faultless
    obtain ⟨x, value⟩ := Option.isSome_iff_exists.1 (holds.value_seen.2 present)
    rw [ofEntries, read]
    show slots.finish symbol = _
    rw [Slots.finish, value, (holds.unit other).2 unit]
    exact if_neg differs

lemma accepted_or_refused (symbol : String) (entries : List (String × Found)) :
    (∃ x, Accepted symbol entries x) ∨ ∃ fault, Refused symbol entries fault := by
  rcases faultless_or_firstFault entries with faultless | ⟨fault, first⟩
  swap
  · exact .inr ⟨fault, .entry first⟩
  by_cases present : "value" ∈ keys entries
  swap
  · exact .inr ⟨_, .missing faultless present⟩
  by_cases foreign : ∃ other, ("unit", Found.string other) ∈ entries ∧ other ≠ symbol
  · obtain ⟨other, unit, differs⟩ := foreign
    exact .inr ⟨_, .foreign faultless present unit differs⟩
  -- every entry is well typed, so the key `value` has a number and the key `unit` the symbol
  obtain ⟨distinct, typed⟩ := faultless_iff.1 faultless
  left
  obtain ⟨⟨name, found⟩, mem, rfl⟩ := List.mem_map.1 present
  rcases typed _ mem with ⟨_, n, rfl⟩ | ⟨other, _⟩
  swap
  · exact absurd other (show "value" ≠ "unit" by decide)
  refine ⟨n.toFloat, ?_, distinct, ⟨n, mem, rfl⟩, ?_⟩
  · intro name mem_keys
    obtain ⟨entry, mem_entries, rfl⟩ := List.mem_map.1 mem_keys
    exact (typed entry mem_entries).imp And.left And.left
  · intro found mem_unit
    rcases typed _ mem_unit with ⟨other, _⟩ | ⟨_, text, rfl⟩
    · exact absurd other (show "unit" ≠ "value" by decide)
    · by_contra differs
      exact foreign ⟨text, mem_unit, fun same => differs (congrArg Found.string same)⟩

/-- An object is accepted exactly with the number that it has. -/
theorem ofEntries_result_eq_ok_iff {x : Float} :
    (ofEntries symbol entries).result = .ok x ↔ Accepted symbol entries x := by
  refine ⟨fun read => ?_, fun accepted => by rw [ofEntries_of_accepted accepted]; rfl⟩
  rcases accepted_or_refused symbol entries with ⟨y, accepted⟩ | ⟨fault, refused⟩
  · rw [ofEntries_of_accepted accepted] at read
    exact Except.ok.inj read ▸ accepted
  · rw [ofEntries_of_refused refused] at read
    cases read

/-- An object is refused exactly for the first reason that applies. -/
theorem ofEntries_result_eq_error_iff :
    (ofEntries symbol entries).result = .error fault ↔ Refused symbol entries fault := by
  refine ⟨fun read => ?_, fun refused => by rw [ofEntries_of_refused refused]⟩
  rcases accepted_or_refused symbol entries with ⟨y, accepted⟩ | ⟨other, refused⟩
  · rw [ofEntries_of_accepted accepted] at read
    cases read
  · rw [ofEntries_of_refused refused] at read
    exact Except.error.inj read ▸ refused

/-- Another unit is recorded, and nothing else is. -/
theorem notices_ofEntries :
    (ofEntries symbol entries).notices = noticesOf (ofEntries symbol entries).result := by
  rcases accepted_or_refused symbol entries with ⟨x, accepted⟩ | ⟨fault, refused⟩
  · rw [ofEntries_of_accepted accepted]
    rfl
  · rw [ofEntries_of_refused refused]

end Metrology.Exchange
