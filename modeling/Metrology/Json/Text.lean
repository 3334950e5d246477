/-!
# JSON strings

Inside quotes a character stands for itself unless it is a quote, a backslash or a control
character. These are written with a backslash; the reader also accepts any 16-bit unit as four
hexadecimal digits, two units for the characters beyond them.
-/

namespace Metrology.Json

def hexDigit? (c : Char) : Option Nat :=
  if '0' ≤ c ∧ c ≤ '9' then some (c.toNat - '0'.toNat)
  else if 'a' ≤ c ∧ c ≤ 'f' then some (c.toNat - 'a'.toNat + 10)
  else if 'A' ≤ c ∧ c ≤ 'F' then some (c.toNat - 'A'.toNat + 10)
  else none

/-- Reads a 16-bit unit of four hexadecimal digits. -/
def readUnit? : List Char → Option (Nat × List Char)
  | a :: b :: c :: d :: rest => do
    let a ← hexDigit? a
    let b ← hexDigit? b
    let c ← hexDigit? c
    let d ← hexDigit? d
    return (((a * 16 + b) * 16 + c) * 16 + d, rest)
  | _ => none

/-- The character after a lone backslash. -/
def escaped? : Char → Option Char
  | '"' => some '"'
  | '\\' => some '\\'
  | '/' => some '/'
  | 'b' => some '\x08'
  | 'f' => some '\x0c'
  | 'n' => some '\n'
  | 'r' => some '\r'
  | 't' => some '\t'
  | _ => none

def isHighSurrogate (n : Nat) : Bool := 0xD800 ≤ n && n ≤ 0xDBFF

def isLowSurrogate (n : Nat) : Bool := 0xDC00 ≤ n && n ≤ 0xDFFF

/-- The character of two surrogates. -/
def joinSurrogates (high low : Nat) : Char :=
  Char.ofNat (0x10000 + (high - 0xD800) * 0x400 + (low - 0xDC00))

/-- Reads what follows a backslash. A unit that is half of a pair needs its other half. -/
def readEscape? : List Char → Option (Char × List Char)
  | 'u' :: rest => do
    let (unit, rest) ← readUnit? rest
    if isLowSurrogate unit then none
    else if isHighSurrogate unit then
      match rest with
      | '\\' :: 'u' :: rest => do
        let (low, rest) ← readUnit? rest
        if isLowSurrogate low then some (joinSurrogates unit low, rest) else none
      | _ => none
    else some (Char.ofNat unit, rest)
  | c :: rest => (escaped? c).map (·, rest)
  | [] => none

/-- Reads one character of a string. -/
def readChar? : List Char → Option (Char × List Char)
  | '\\' :: rest => readEscape? rest
  | c :: rest => if c < ' ' then none else some (c, rest)
  | [] => none

theorem readUnit?_shrinks {cs rest : List Char} {n : Nat} (h : readUnit? cs = some (n, rest)) :
    rest.length < cs.length := by
  unfold readUnit? at h
  split at h
  · simp only [Option.bind_eq_bind, Option.bind_eq_some_iff, Option.pure_def] at h
    obtain ⟨_, _, _, _, _, _, _, _, ends⟩ := h
    cases ends
    simp only [List.length_cons]
    omega
  · cases h

theorem readEscape?_shrinks {cs rest : List Char} {c : Char}
    (h : readEscape? cs = some (c, rest)) : rest.length < cs.length := by
  unfold readEscape? at h
  split at h
  · simp only [Option.bind_eq_bind, Option.bind_eq_some_iff] at h
    obtain ⟨⟨_, _⟩, unit, h⟩ := h
    have := readUnit?_shrinks unit
    split at h
    · cases h
    · split at h
      · split at h
        · simp only [Option.bind_eq_some_iff] at h
          obtain ⟨⟨_, _⟩, low, h⟩ := h
          have := readUnit?_shrinks low
          split at h
          · obtain ⟨_, rfl⟩ := Prod.mk.inj (Option.some.inj h)
            grind
          · cases h
        · cases h
      · obtain ⟨_, rfl⟩ := Prod.mk.inj (Option.some.inj h)
        simp only [List.length_cons]
        omega
  · simp only [Option.map_eq_some_iff] at h
    obtain ⟨_, _, ends⟩ := h
    cases ends
    exact Nat.lt_succ_self _
  · cases h

theorem readChar?_shrinks {cs rest : List Char} {c : Char} (h : readChar? cs = some (c, rest)) :
    rest.length < cs.length := by
  unfold readChar? at h
  split at h
  · exact Nat.lt_succ_of_lt (readEscape?_shrinks h)
  · split at h
    · cases h
    · cases h
      exact Nat.lt_succ_self _
  · cases h

/-- Reads the inside of a string up to its closing quote, and what follows it. -/
def readString? (cs : List Char) : Option (List Char × List Char) :=
  match cs with
  | '"' :: rest => some ([], rest)
  | cs =>
    match h : readChar? cs with
    | none => none
    | some (c, rest) =>
      have := readChar?_shrinks h
      (readString? rest).map fun (text, rest) => (c :: text, rest)
termination_by cs.length
decreasing_by
  assumption

theorem readString?_shrinks {cs text rest : List Char} (h : readString? cs = some (text, rest)) :
    rest.length < cs.length := by
  induction size : cs.length using Nat.strongRecOn generalizing cs text rest with
  | ind n ih =>
    subst size
    rw [readString?.eq_def] at h
    split at h
    · cases h
      exact Nat.lt_succ_self _
    · split at h
      · cases h
      · rename_i read
        simp only [Option.map_eq_some_iff] at h
        obtain ⟨⟨_, _⟩, h, ends⟩ := h
        cases ends
        have shorter := readChar?_shrinks read
        exact Nat.lt_trans (ih _ shorter h rfl) shorter

def hexChar (n : Nat) : Char :=
  Nat.digitChar n

/-- The written form of a character inside a string. -/
def escape (c : Char) : List Char :=
  match c with
  | '"' => ['\\', '"']
  | '\\' => ['\\', '\\']
  | '\x08' => ['\\', 'b']
  | '\x0c' => ['\\', 'f']
  | '\n' => ['\\', 'n']
  | '\r' => ['\\', 'r']
  | '\t' => ['\\', 't']
  | c =>
    if c < ' ' then ['\\', 'u', '0', '0', hexChar (c.toNat / 16), hexChar (c.toNat % 16)]
    else [c]

/-- The written form of a string, quotes included. -/
def writeString (s : String) : String :=
  "\"" ++ String.ofList (s.toList.flatMap escape) ++ "\""

end Metrology.Json
