import TransactionLedger.Json.Spelling

/-!
# Spellings in the relaxed dialect

The text that a spelling of the relaxed dialect denotes, and the spelling of the same text in the
strict dialect. Every spelling denotes a text here: half of a surrogate pair counts as the
replacement character.
-/

namespace TransactionLedger.Json

/-- The character that stands for what cannot be represented. -/
def replacementChar : Char := '\uFFFD'

/-- A code unit as a character. -/
def unitChar (unit : Nat) : Char :=
  if isHighSurrogate unit || isLowSurrogate unit then replacementChar else Char.ofNat unit

/-- The next part of a relaxed spelling: the characters that it denotes, its strict spelling and the
rest. -/
def nextRelaxed : Source → Option (List Char × List Char × Source)
  | [] => none
  | some '\\' :: some 'u' :: some a :: some b :: some c :: some d :: rest =>
    let unit := (hexUnit? a b c d).getD 0
    let spelled := ['\\', 'u', a, b, c, d]
    if isHighSurrogate unit then
      match rest with
      | some '\\' :: some 'u' :: some e :: some f :: some g :: some h :: further =>
        let low := (hexUnit? e f g h).getD 0
        if isLowSurrogate low then
          some ([pairChar unit low], spelled ++ ['\\', 'u', e, f, g, h], further)
        else some ([replacementChar], spelled, rest)
      | _ => some ([replacementChar], spelled, rest)
    else some ([unitChar unit], spelled, rest)
  | some '\\' :: some 'x' :: some a :: some b :: rest =>
    some ([unitChar ((hexUnit? '0' '0' a b).getD 0)], ['\\', 'u', '0', '0', a, b], rest)
  | some '\\' :: some '\'' :: rest => some (['\''], ['\''], rest)
  | some '\\' :: some 'v' :: rest => some (['\x0b'], ['\\', 'u', '0', '0', '0', 'b'], rest)
  | some '\\' :: some '0' :: rest => some (['\x00'], ['\\', 'u', '0', '0', '0', '0'], rest)
  | some '\\' :: some '\r' :: some '\n' :: rest => some ([], [], rest)
  | some '\\' :: some '\r' :: rest => some ([], [], rest)
  | some '\\' :: some '\n' :: rest => some ([], [], rest)
  | some '\\' :: some '\u2028' :: rest => some ([], [], rest)
  | some '\\' :: some '\u2029' :: rest => some ([], [], rest)
  | some '\\' :: some c :: rest => some ([simpleEscape c], ['\\', c], rest)
  | some '"' :: rest => some (['"'], ['\\', '"'], rest)
  | some c :: rest => some ([c], [c], rest)
  | none :: rest => some ([replacementChar], [replacementChar], rest)

/-- Goes through a relaxed spelling with some fuel, which its length bounds; the denoted text and
the strict spelling so far are in reverse. -/
def relaxedOnto (denoted spelled : List Char) : Nat → Source → List Char × List Char
  | 0, _ => (denoted.reverse, spelled.reverse)
  | fuel + 1, source =>
    match nextRelaxed source with
    | none => (denoted.reverse, spelled.reverse)
    | some (chars, spelling, rest) =>
      relaxedOnto (chars.reverse ++ denoted) (spelling.reverse ++ spelled) fuel rest

/-- The text that a relaxed spelling denotes. -/
def relaxedText (source : Source) : List Char :=
  (relaxedOnto [] [] source.length source).1

/-- The strict spelling of the text that a relaxed spelling denotes. -/
def strictSpelling (source : Source) : List Char :=
  (relaxedOnto [] [] source.length source).2

end TransactionLedger.Json
