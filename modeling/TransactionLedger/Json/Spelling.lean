import TransactionLedger.Json.Token

/-!
# Spellings of strings

What stands between the quotes of a string, and the text that it denotes. Characters above the
first 65536 may be spelled by two escaped surrogates; half of such a pair denotes nothing, nor does
a damaged place.
-/

namespace TransactionLedger.Json

/-- The number that four hexadecimal digits denote. -/
def hexUnit? (a b c d : Char) : Option Nat := do
  let a ← Text.hexValue? a
  let b ← Text.hexValue? b
  let c ← Text.hexValue? c
  let d ← Text.hexValue? d
  return ((a * 16 + b) * 16 + c) * 16 + d

/-- The first half of a pair. -/
def isHighSurrogate (unit : Nat) : Bool :=
  0xD800 ≤ unit && unit < 0xDC00

/-- The second half of a pair. -/
def isLowSurrogate (unit : Nat) : Bool :=
  0xDC00 ≤ unit && unit < 0xE000

/-- The character that a pair denotes. -/
def pairChar (high low : Nat) : Char :=
  Char.ofNat (0x10000 + (high - 0xD800) * 0x400 + (low - 0xDC00))

/-- The character that a backslash and one character denote. -/
def simpleEscape (c : Char) : Char :=
  if c = 'b' then '\x08'
  else if c = 'f' then '\x0c'
  else if c = 'n' then '\n'
  else if c = 'r' then '\r'
  else if c = 't' then '\t'
  else c

/-- The next character of a spelling, and the rest. -/
def nextChar? : Source → Option (Char × Source)
  | some '\\' :: some 'u' :: some a :: some b :: some c :: some d :: rest => do
    let unit ← hexUnit? a b c d
    if isLowSurrogate unit then none
    else if isHighSurrogate unit then
      match rest with
      | some '\\' :: some 'u' :: some a :: some b :: some c :: some d :: rest => do
        let low ← hexUnit? a b c d
        if isLowSurrogate low then some (pairChar unit low, rest) else none
      | _ => none
    else some (Char.ofNat unit, rest)
  | some '\\' :: some c :: rest => some (simpleEscape c, rest)
  | some c :: rest => some (c, rest)
  | _ => none

/-- Reading a character uses up some of the spelling. -/
theorem nextChar?_shorter {source rest : Source} {c : Char}
    (read : nextChar? source = some (c, rest)) : rest.length < source.length := by
  unfold nextChar? at read
  split at read
  · simp only [Option.bind_eq_bind, Option.bind_eq_some_iff] at read
    obtain ⟨unit, -, read⟩ := read
    split at read
    · simp at read
    · split at read
      · split at read
        · simp only [Option.bind_eq_some_iff] at read
          obtain ⟨low, -, read⟩ := read
          split at read
          · simp only [Option.some.injEq, Prod.mk.injEq] at read
            obtain ⟨-, rfl⟩ := read
            simp only [List.length_cons]
            omega
          · simp at read
        · simp at read
      · simp only [Option.some.injEq, Prod.mk.injEq] at read
        obtain ⟨-, rfl⟩ := read
        simp only [List.length_cons]
        omega
  · simp only [Option.some.injEq, Prod.mk.injEq] at read
    obtain ⟨-, rfl⟩ := read
    simp only [List.length_cons]
    omega
  · simp only [Option.some.injEq, Prod.mk.injEq] at read
    obtain ⟨-, rfl⟩ := read
    simp
  · simp at read

/-- The text that a spelling denotes, with the text in front of it in reverse. -/
def decodeOnto (done : List Char) (source : Source) : Option (List Char) :=
  match source with
  | [] => some done.reverse
  | first :: more =>
    match _read : nextChar? (first :: more) with
    | some (c, rest) => decodeOnto (c :: done) rest
    | none => none
termination_by source.length
decreasing_by exact nextChar?_shorter (by assumption)

/-- The text that a spelling denotes. -/
def spelledText? (source : Source) : Option String :=
  (decodeOnto [] source).map String.ofList

end TransactionLedger.Json
