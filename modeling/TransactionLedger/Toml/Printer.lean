import TransactionLedger.Text.Digits

/-!
# Writing TOML strings

A string is written between double quotes with escapes. Where it holds quotes or backslashes, single
quotes are preferred if the text can stand between them as it is; line ends call for three quotes.
-/

namespace TransactionLedger.Toml

/-- The longest run of single quotes. -/
def longestQuoteRun (current longest : Nat) : List Char → Nat
  | [] => max current longest
  | c :: rest =>
    if c = '\'' then longestQuoteRun (current + 1) longest rest
    else longestQuoteRun 0 (max current longest) rest

/-- The control characters that cannot stand as they are; blanks and line ends can. -/
def needsEscape (c : Char) : Bool :=
  (c.toNat < 0x20 && c != '\t' && c != '\n') || c.toNat == 0x7F

/-- The text is better written between single quotes, and can be. -/
def prefersLiteral (text : List Char) : Bool :=
  text.any (fun c => c == '"' || c == '\\') && longestQuoteRun 0 0 text < 3 &&
    !text.any needsEscape && text.getLast? != some '\''

/-- How a character is written between double quotes. -/
def escaped (multiline : Bool) (c : Char) : List Char :=
  if c = '\x08' then ['\\', 'b']
  else if c = '\t' then ['\\', 't']
  else if c = '\n' then if multiline then ['\n'] else ['\\', 'n']
  else if c = '\x0c' then ['\\', 'f']
  else if c = '\r' then ['\\', 'r']
  else if c = '"' then ['\\', '"']
  else if c = '\\' then ['\\', '\\']
  else if c.toNat < 0x20 ∨ c.toNat = 0x7F then
    '\\' :: 'u' :: (Text.hexPadded 4 c.toNat).map Char.toUpper
  else [c]

/-- A text between two others. -/
def between (opening closing text : List Char) : List Char :=
  opening ++ text ++ closing

/-- Three quotes. -/
def triple (quote : Char) : List Char :=
  [quote, quote, quote]

/-- The written form of a string. -/
def stringText (text : List Char) : List Char :=
  let multiline := text.contains '\n'
  if prefersLiteral text then
    if multiline then between (triple '\'' ++ ['\n']) (triple '\'') text
    else if text.contains '\'' then between (triple '\'') (triple '\'') text
    else between ['\''] ['\''] text
  else if multiline then
    between (triple '"' ++ ['\n']) (triple '"') (text.flatMap (escaped true))
  else between ['"'] ['"'] (text.flatMap (escaped false))

end TransactionLedger.Toml
