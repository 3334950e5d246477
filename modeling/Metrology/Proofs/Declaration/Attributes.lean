import Metrology.Proofs.Declaration.Order

/-!
# Declarations with several attributes

A declaration may carry any number of attributes, and more than one of them may be for units. Main
statement: an implementation is generated exactly if the first attribute for units lists entries that
make a declaration, and then from the values of these entries; whatever other attributes there are,
before it or behind it, has no say. So no key is passed over in silence exactly if no later attribute
for units writes one.

What an attribute for units writes is said apart from what is done with it: `writtenKeys` goes through
the entries in the way of `readEntries`, up to the first that cannot be read, but stores nothing.
-/

namespace Metrology.Declaration

/-! ## Keys that are written -/

/-- A key that is written: with its value, or by its name alone where the key is unknown or where no
value can be read behind it. -/
inductive WrittenKey where
  | valued (v : Value)
  | bare (name : String)
deriving DecidableEq

def WrittenKey.name : WrittenKey → String
  | valued v => v.key.name
  | bare name => name

/-- The keys of an attribute up to the first without a value. -/
def writtenKeys (tokens : List Token) : List WrittenKey :=
  match tokens with
  | .word name :: .mark '=' _ :: start =>
    match Key.ofName? name with
    | none => [.bare name]
    | some key =>
      match read : readValue key start with
      | .error _ => [.bare name]
      | .ok (v, rest) =>
        have := readValue_length_le read
        have := skipComma_length_le rest
        .valued v :: writtenKeys (skipComma rest)
  | .word name :: _ => [.bare name]
  | _ => []
termination_by tokens.length
decreasing_by
  simp only [List.length_cons]
  omega

def Arguments.keys : Arguments → List WrittenKey
  | none => []
  | assigned => []
  | list tokens => writtenKeys tokens

/-- What the attributes for units give, in the order of the attributes. -/
def allArguments (attributes : List (List Token)) : List Arguments :=
  attributes.filterMap unitArguments?

/-- The keys that are written in any of the attributes for units. -/
def allKeys (attributes : List (List Token)) : List WrittenKey :=
  (allArguments attributes).flatMap Arguments.keys

/-- Whether a declaration heeds every key that is written in an attribute for units: each is known,
each is written once in total, and the declaration has their values and no others. -/
structure Heeds (d : UnitDeclaration) (attributes : List (List Token)) : Prop where
  known : ∀ k ∈ allKeys attributes, ∃ key : Key, key.name = k.name
  distinct : ((allKeys attributes).map WrittenKey.name).Nodup
  described : ∃ vs, allKeys attributes = vs.map .valued ∧ Describes d vs

/-! ## Keys of entries -/

variable {l : Entries} {vs ws : List Value} {v w : Value} {d : UnitDeclaration} {name text : String}
  {attributes : List (List Token)} {later : List Arguments} {tokens : List Token}

lemma writtenKeys_entry {e : Entry} {following : List Token} (gives : e.Gives following v) :
    writtenKeys (e.tokens ++ following) = .valued v :: writtenKeys (skipComma following) := by
  obtain ⟨name, joined, source⟩ := e
  obtain ⟨rfl, read⟩ := gives
  show writtenKeys (.word v.key.name :: .mark '=' joined :: (source ++ following)) = _
  rw [writtenKeys]
  split
  · next absent => rw [v.key.ofName?_name] at absent; cases absent
  · next key found =>
    rw [v.key.ofName?_name] at found
    cases found
    split
    · next failed => rw [read] at failed; cases failed
    · next again =>
      rw [read] at again
      cases again
      rfl

/-- The keys of entries that give values are written with these values. -/
lemma writtenKeys_written {rest : Entries} (gives : Gives rest l vs) :
    writtenKeys (written (l ++ rest)) = vs.map .valued ++ writtenKeys (written rest) := by
  induction gives with
  | nil => rfl
  | @cons e comma l v vs first _ ih =>
    rw [List.cons_append, written, writtenKeys_entry first, skipComma_separator, ih]
    rfl

lemma writtenKeys_nil : writtenKeys [] = [] := by
  unfold writtenKeys
  rfl

lemma writtenKeys_all (gives : Gives [] l vs) : writtenKeys (written l) = vs.map .valued := by
  have keys := writtenKeys_written gives
  rwa [List.append_nil, show written [] = [] from rfl, writtenKeys_nil, List.append_nil] at keys

lemma map_name_valued (vs : List Value) :
    (vs.map WrittenKey.valued).map WrittenKey.name = (vs.map Value.key).map Key.name := by
  rw [List.map_map, List.map_map]
  rfl

/-! ## The first attribute for units -/

/-- Entries that give values with different keys leave slots that hold them, and nothing else. -/
lemma ofArguments_written (gives : Gives [] l vs) (distinct : (vs.map Value.key).Nodup) :
    ofArguments (written l) = .ok d ↔ Describes d vs := by
  obtain ⟨s, run, holds⟩ := Slots.putAll_of_nodup distinct
  rw [ofArguments, readEntries_all gives, run]
  exact holds.finish_eq_ok_iff

lemma exists_written (accepted : ofArguments tokens = .ok d) :
    ∃ l vs, tokens = written l ∧ Gives [] l vs ∧ (vs.map Value.key).Nodup := by
  cases read : readEntries {} tokens with
  | error fault =>
    rw [ofArguments, read] at accepted
    cases accepted
  | ok s =>
    obtain ⟨l, vs, same, gives, run⟩ := exists_gives read
    exact ⟨l, vs, same, gives, Slots.nodup_of_putAll run⟩

lemma ofAttributes_eq_ok_iff :
    ofAttributes attributes = .ok d ↔
      ∃ tokens later, allArguments attributes = .list tokens :: later ∧ ofArguments tokens = .ok d := by
  have first : attributes.findSome? unitArguments? = (allArguments attributes).head? :=
    List.head?_filterMap.symm
  rw [ofAttributes, first]
  cases allArguments attributes with
  | nil => simp
  | cons arguments later => cases arguments <;> simp

/-- A declaration is read from the entries of the first attribute for units. -/
lemma ofAttributes_eq_ok_iff_gives :
    ofAttributes attributes = .ok d ↔
      ∃ l vs later, allArguments attributes = .list (written l) :: later ∧ Gives [] l vs ∧
        (vs.map Value.key).Nodup ∧ Describes d vs := by
  rw [ofAttributes_eq_ok_iff]
  constructor
  · rintro ⟨tokens, later, first, accepted⟩
    obtain ⟨l, vs, rfl, gives, distinct⟩ := exists_written accepted
    exact ⟨l, vs, later, first, gives, distinct, (ofArguments_written gives distinct).1 accepted⟩
  · rintro ⟨l, vs, later, first, gives, distinct, describes⟩
    exact ⟨written l, later, first, (ofArguments_written gives distinct).2 describes⟩

/-! ## Keys that are heeded -/

/-- Two descriptions of one declaration have the same keys. -/
lemma Describes.key_mem (describes : Describes d vs) (other : Describes d ws) (mem : w ∈ ws) :
    w.key ∈ vs.map Value.key := by
  cases w with
  | symbol => exact List.mem_map.2 ⟨_, describes.symbol, rfl⟩
  | dimension => exact List.mem_map.2 ⟨_, describes.dimension, rfl⟩
  | ratio scale =>
    have declared : d.ratio = some scale := (other.ratio scale).2 mem
    exact List.mem_map.2 ⟨_, (describes.ratio scale).1 declared, rfl⟩
  | exponent e =>
    have declared : d.exponent = some e := (other.exponent e).2 mem
    exact List.mem_map.2 ⟨_, (describes.exponent e).1 declared, rfl⟩

section First

variable (first : allArguments attributes = .list (written l) :: later) (gives : Gives [] l vs)

include first gives

lemma allKeys_eq :
    allKeys attributes = vs.map .valued ++ later.flatMap Arguments.keys := by
  rw [allKeys, first, List.flatMap_cons, Arguments.keys, writtenKeys_all gives]

variable (distinct : (vs.map Value.key).Nodup) (describes : Describes d vs)

include distinct describes

/-- All keys are heeded if only the first attribute for units writes any. A key of a later one would
either repeat one of the first or have a value that the declaration lacks. -/
lemma heeds_iff : Heeds d attributes ↔ ∀ a ∈ later, a.keys = [] := by
  have keys := allKeys_eq first gives
  constructor
  · rintro ⟨_, once, ws, valued, other⟩
    rw [← List.flatMap_eq_nil_iff, List.eq_nil_iff_forall_not_mem]
    intro k mem
    rw [keys] at once valued
    obtain ⟨w, mem_ws, rfl⟩ := List.mem_map.1 (valued ▸ List.mem_append_right _ mem)
    rw [List.map_append, map_name_valued] at once
    have again : w.key.name ∈ (vs.map Value.key).map Key.name :=
      List.mem_map_of_mem (describes.key_mem other mem_ws)
    exact (List.disjoint_of_nodup_append once) again (List.mem_map_of_mem mem)
  · intro silent
    rw [List.flatMap_eq_nil_iff.2 silent, List.append_nil] at keys
    refine ⟨?_, ?_, vs, keys, describes⟩
    · rw [keys]
      intro k mem
      obtain ⟨v, _, rfl⟩ := List.mem_map.1 mem
      exact ⟨v.key, rfl⟩
    · rw [keys, map_name_valued]
      exact distinct.map fun _ _ => Key.name_injective

end First

/-! ## Generated implementations -/

/-- The ratio that values with different keys call for is that of one declared scale, or of none. -/
lemma CallsForRatio.exists_scale {expression : List String} (distinct : (vs.map Value.key).Nodup)
    (calls : CallsForRatio vs expression) :
    ∃ ratio : Option Scale, (∀ scale, ratio = some scale ↔ .ratio scale ∈ vs) ∧
      expression = ratioExpression ratio := by
  have unique : ∀ {declared}, .ratio declared ∈ vs →
      ∀ scale, some declared = some scale ↔ .ratio scale ∈ vs := by
    intro declared mem scale
    constructor
    · rintro ⟨⟩
      exact mem
    · intro other
      have same := List.inj_on_of_nodup_map distinct mem other rfl
      exact congrArg some (Value.ratio.inj same)
  cases calls with
  | @fraction num den mem => exact ⟨some (.fraction num den), unique mem, rfl⟩
  | @whole num mem => exact ⟨some (.whole num), unique mem, rfl⟩
  | one absent => exact ⟨none, fun scale => ⟨nofun, fun mem => absurd mem (absent scale)⟩, rfl⟩

/-- The power of ten likewise. -/
lemma CallsForExponent.exists_tokens {expression : List String}
    (distinct : (vs.map Value.key).Nodup) (calls : CallsForExponent vs expression) :
    ∃ exponent : Option (List Token), (∀ e, exponent = some e ↔ .exponent e ∈ vs) ∧
      expression = exponentExpression exponent := by
  cases calls with
  | @set tokens mem =>
    refine ⟨some tokens, fun e => ⟨?_, ?_⟩, rfl⟩
    · rintro ⟨⟩
      exact mem
    · intro other
      have same := List.inj_on_of_nodup_map distinct mem other rfl
      exact congrArg some (Value.exponent.inj same)
  | zero absent => exact ⟨none, fun e => ⟨nofun, fun mem => absurd mem (absent e)⟩, rfl⟩

/-- What values with different keys call for is the implementation of the declaration that has
them. -/
lemma generated_iff (name : String) (distinct : (vs.map Value.key).Nodup) :
    Generated name vs text ↔
      ∃ d, Describes d vs ∧ text = " ".intercalate (d.implementation name) := by
  constructor
  · rintro ⟨symbol_mem, dimension_mem, ratio_of, exponent_of⟩
    obtain ⟨ratio, ratio_iff, rfl⟩ := ratio_of.exists_scale distinct
    obtain ⟨exponent, exponent_iff, rfl⟩ := exponent_of.exists_tokens distinct
    refine ⟨⟨_, _, ratio, exponent⟩, ⟨symbol_mem, dimension_mem, ratio_iff, exponent_iff⟩, ?_⟩
    simp [UnitDeclaration.implementation, ratioPath]
  · rintro ⟨d, describes, rfl⟩
    exact generated_of_describes name describes

lemma implement_eq_ok_iff :
    implement name attributes = .ok text ↔
      ∃ d, ofAttributes attributes = .ok d ∧ text = " ".intercalate (d.implementation name) := by
  rw [implement]
  cases ofAttributes attributes with
  | error => simp [Except.map]
  | ok d => simp [Except.map, eq_comm]

end Metrology.Declaration
