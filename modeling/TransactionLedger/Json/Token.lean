import TransactionLedger.Json.Numeral

/-!
# Tokens

A document is a sequence of characters in which some places may be damaged: bytes that spell no
character. A token keeps the spelling of a string or number; what it denotes is found out only when
it is needed, so that parts of a document which nobody reads are held to less.
-/

namespace TransactionLedger.Json

/-- The characters of a document; nothing stands for bytes that spell no character. -/
abbrev Source := List (Option Char)

/-- The source of an undamaged text. -/
def Source.ofText (text : List Char) : Source :=
  text.map some

/-- A token. -/
inductive Token
  | openBrace
  | closeBrace
  | openBracket
  | closeBracket
  | comma
  | colon
  | null
  | bool (value : Bool)
  | number (numeral : Numeral)
  | string (spelling : Source)
  /-- A bare word, which only the relaxed dialect has. -/
  | word (spelling : List Char)
  /-- The place from which the document cannot be read. -/
  | broken
  deriving DecidableEq, Repr

end TransactionLedger.Json
