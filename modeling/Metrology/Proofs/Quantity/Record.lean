import Metrology.Proofs.Json.Numeral
import Metrology.Proofs.Quantity.Entries

/-!
# Reading an object from its text

The reader goes through the tokens of an object and never builds the object. Main statement: on the
text of an object, however it is spelled, it finds what the entries of the object say, and no fault
in the text gets in the way (`readRecord_tokens`). So the answers for lists of entries hold for
texts (`ofRecordText_object`).

The reader sees of an array or an object inside the object only that it begins. That is enough: such
a value has the wrong type under either key, so the tokens behind its first one are never reached.
-/

namespace Metrology.Exchange

open Json (Found Token Value)

/-- What the reader sees of the fields of an object. -/
def seen (fields : List (String × Value)) : List (String × Found) :=
  fields.map fun (name, v) => (name, v.found)

variable {s : Slots} {symbol : String} {rest : List Token}

/-- The first token of a value shows what is found there; the others belong to an array or an
object. -/
lemma tokens_found (v : Value) :
    ∃ t more, v.tokens = t :: more ∧ foundAt? t = some v.found ∧
      (more = [] ∨ v.found = .sequence ∨ v.found = .map) := by
  cases v with
  | array items => exact ⟨_, _, rfl, rfl, .inr (.inl rfl)⟩
  | object fields => exact ⟨_, _, rfl, rfl, .inr (.inr rfl)⟩
  | _ => exact ⟨_, _, rfl, rfl, .inl rfl⟩

/-- Neither field takes an array or an object. -/
lemma fill_composite {found : Found} (composite : found = .sequence ∨ found = .map)
    (field : Field) : ∃ fault, s.fill field found = .error fault := by
  rcases composite with rfl | rfl
  · cases field <;> exact ⟨_, rfl⟩
  · cases field <;> exact ⟨_, rfl⟩

/-- The tokens of an object behind its first name, and what follows the object. -/
def memberTail (v : Value) (more : List (String × Value)) (rest : List Token) : List Token :=
  match more with
  | [] => .colon :: (v.tokens ++ .closeObject :: rest)
  | (name, w) :: more => .colon :: (v.tokens ++ .comma :: .string name :: memberTail w more rest)

lemma memberTokens_cons (name : String) (v : Value) (more : List (String × Value)) :
    [Token.comma].intercalate (Value.fieldTokens ((name, v) :: more)) ++ .closeObject :: rest =
      .string name :: memberTail v more rest := by
  induction more generalizing name v with
  | nil => simp [Value.fieldTokens, memberTail]
  | cons next more ih =>
    obtain ⟨name', w⟩ := next
    have ih := ih name' w
    simp only [Value.fieldTokens] at ih ⊢
    rw [List.intercalate_cons_cons, List.append_assoc, List.append_assoc, ih]
    simp [memberTail]

/-- One member is read like one entry. -/
lemma readMembers_value (name : String) (v : Value) (after : List Token) :
    readMembers s name (.colon :: (v.tokens ++ after)) =
      ((s.readEntry (name, v.found)).mapError .data).bind fun next =>
        match after with
        | .closeObject :: rest => .ok (next, rest)
        | .comma :: .string name :: rest => readMembers next name rest
        | _ => .error .malformed := by
  obtain ⟨t, more, tokens, found, only⟩ := tokens_found v
  rw [readMembers.eq_def, Slots.readEntry]
  cases s.openField name with
  | error fault => rfl
  | ok field =>
    simp only [tokens, List.cons_append, found]
    show _ = ((s.fill field v.found).mapError ReadFault.data).bind _
    -- the reader goes on after the first token, where only a value of a single token has ended
    rcases only with rfl | composite
    · cases s.fill field v.found with
      | error fault => rfl
      | ok next => rfl
    · obtain ⟨fault, filled⟩ := fill_composite (s := s) composite field
      rw [filled]
      rfl

/-- The members of an object are read like its entries. -/
lemma readMembers_tail (name : String) (v : Value) (more : List (String × Value)) :
    readMembers s name (memberTail v more rest) =
      ((s.readEntries (seen ((name, v) :: more))).mapError .data).map (·, rest) := by
  induction more generalizing s name v with
  | nil =>
    rw [memberTail, readMembers_value]
    show _ = ((s.readEntries [(name, v.found)]).mapError ReadFault.data).map _
    rw [readEntries_cons]
    cases s.readEntry (name, v.found) with
    | error fault => rfl
    | ok next => rfl
  | cons member more ih =>
    obtain ⟨name', w⟩ := member
    rw [memberTail, readMembers_value]
    show _ = ((s.readEntries ((name, v.found) :: seen ((name', w) :: more))).mapError
      ReadFault.data).map _
    rw [readEntries_cons]
    cases s.readEntry (name, v.found) with
    | error fault => rfl
    | ok next => exact ih name' w

/-- An object is read like its entries, and the tokens behind it are left. -/
lemma readObject_fields (fields : List (String × Value)) :
    readObject ([Token.comma].intercalate (Value.fieldTokens fields) ++ .closeObject :: rest) =
      ((Slots.readEntries {} (seen fields)).mapError .data).map (·, rest) := by
  cases fields with
  | nil => rfl
  | cons member more =>
    obtain ⟨name, v⟩ := member
    rw [memberTokens_cons, readObject]
    exact readMembers_tail name v more

lemma andThen_ofExcept {ε α β : Type} (a : α) (f : α → Attempt ε β) :
    (Attempt.ofExcept (.ok a)).andThen f = f a := rfl

lemma atEnd_nil {α : Type} (x : Attempt ReadFault α) : atEnd [] x = x := by
  obtain ⟨result, notices⟩ := x
  cases result with
  | error fault => rfl
  | ok a => exact congrArg (Attempt.mk _) (List.append_nil notices)

/-- On the tokens of an object the reader finds what the entries of the object say. -/
theorem readRecord_tokens (fields : List (String × Value)) :
    readRecord symbol (Value.object fields).tokens =
      (ofEntries symbol (seen fields)).mapError .data := by
  rw [Value.tokens, readRecord, readObject_fields, ofEntries]
  cases Slots.readEntries {} (seen fields) with
  | error fault => rfl
  | ok slots =>
    show (Attempt.ofExcept (.ok (slots, []))).andThen _ = _
    rw [andThen_ofExcept, andThen_ofExcept]
    exact atEnd_nil _

/-! ## Texts -/

section Text

variable {u : UnitExpr} {text : String} {fields : List (String × Value)}

lemma ofRecordText_eq_ok_iff (spelled : Token.ofText text.toList = (Value.object fields).tokens)
    (q : Quantity u) :
    (Quantity.ofRecordText text).result = .ok q ↔
      Accepted u.symbol (seen fields) q.magnitude := by
  rw [Quantity.ofRecordText, spelled, readRecord_tokens, ← ofEntries_result_eq_ok_iff]
  cases read : ofEntries u.symbol (seen fields) with
  | mk result notices =>
    cases result with
    | error fault => exact ⟨nofun, nofun⟩
    | ok x =>
      constructor
      · rintro ⟨⟩
        rfl
      · rintro ⟨⟩
        rfl

lemma ofRecordText_eq_error_iff (spelled : Token.ofText text.toList = (Value.object fields).tokens)
    (fault : ReadFault) :
    (Quantity.ofRecordText text : Attempt ReadFault (Quantity u)).result = .error fault ↔
      ∃ d, Refused u.symbol (seen fields) d ∧ fault = .data d := by
  rw [Quantity.ofRecordText, spelled, readRecord_tokens]
  simp only [← ofEntries_result_eq_error_iff]
  cases read : ofEntries u.symbol (seen fields) with
  | mk result notices =>
    cases result with
    | error d =>
      constructor
      · rintro ⟨⟩
        exact ⟨d, rfl, rfl⟩
      · rintro ⟨_, ⟨⟩, rfl⟩
        rfl
    | ok x => exact ⟨nofun, nofun⟩

lemma notices_ofRecordText (spelled : Token.ofText text.toList = (Value.object fields).tokens) :
    (Quantity.ofRecordText text : Attempt ReadFault (Quantity u)).notices =
      noticesOf (ofEntries u.symbol (seen fields)).result := by
  rw [Quantity.ofRecordText, spelled, readRecord_tokens, ← notices_ofEntries]
  rfl

end Text

end Metrology.Exchange
