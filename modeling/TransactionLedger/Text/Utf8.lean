/-!
# UTF-8

Bytes as characters and characters as bytes. Bytes that spell no character leave a damaged place
for each of them; overlong spellings and surrogates count as damage.
-/

namespace TransactionLedger.Text

/-- A byte that continues a character. -/
def isContinuation (byte : UInt8) : Bool :=
  0x80 ≤ byte && byte < 0xC0

/-- The six bits that a continuation adds. -/
def addContinuation (value : Nat) (byte : UInt8) : Nat :=
  value * 64 + byte.toNat % 64

/-- The character with the given number, if it needs the length in which it is spelled. -/
def spelledChar? (least value : Nat) : Option Char :=
  if h : value.isValidChar then
    if least ≤ value then some (Char.ofNatAux value h) else none
  else none

/-- The characters that bytes spell; nothing stands for a damaged place. -/
def decodeUtf8 : List UInt8 → List (Option Char)
  | [] => []
  | a :: rest =>
    if a < 0x80 then some (Char.ofNat a.toNat) :: decodeUtf8 rest
    else if a < 0xC0 then none :: decodeUtf8 rest
    else if a < 0xE0 then
      match rest with
      | b :: more =>
        match isContinuation b, spelledChar? 0x80 (addContinuation (a.toNat - 0xC0) b) with
        | true, some c => some c :: decodeUtf8 more
        | _, _ => none :: decodeUtf8 (b :: more)
      | [] => [none]
    else if a < 0xF0 then
      match rest with
      | b :: c :: more =>
        let value := addContinuation (addContinuation (a.toNat - 0xE0) b) c
        match isContinuation b && isContinuation c, spelledChar? 0x800 value with
        | true, some char => some char :: decodeUtf8 more
        | _, _ => none :: decodeUtf8 (b :: c :: more)
      | short => none :: decodeUtf8 short
    else if a < 0xF8 then
      match rest with
      | b :: c :: d :: more =>
        let value :=
          addContinuation (addContinuation (addContinuation (a.toNat - 0xF0) b) c) d
        match isContinuation b && isContinuation c && isContinuation d,
            spelledChar? 0x10000 value with
        | true, some char => some char :: decodeUtf8 more
        | _, _ => none :: decodeUtf8 (b :: c :: d :: more)
      | short => none :: decodeUtf8 short
    else none :: decodeUtf8 rest

/-- The text that bytes spell, unless a place is damaged. -/
def utf8Text? (bytes : List UInt8) : Option String :=
  ((decodeUtf8 bytes).mapM id).map String.ofList

def utf8Bytes (text : String) : List UInt8 :=
  text.toList.flatMap String.utf8EncodeChar

end TransactionLedger.Text
