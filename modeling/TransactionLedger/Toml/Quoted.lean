import TransactionLedger.Toml.Scan

/-!
# Strings

Strings stand between single or double quotes, on one line, or between three quotes on several
lines. Only double quotes know escapes. The reader takes one character at a time.
-/

namespace TransactionLedger.Toml

/-- A kind of string. -/
structure QuoteStyle where
  quote : Char
  multiline : Bool
  deriving DecidableEq, Repr

/-- Where the reader of a string stands. -/
inductive QuoteState
  | plain
  /-- Behind some quotes of a string on several lines. -/
  | quotes (count : Nat)
  | slash
  | unicode (missing value : Nat)
  /-- Behind a backslash that continues a line. -/
  | gap (crossed : Bool)
  /-- Between the two characters of a line end, in the text or in a gap. -/
  | carriage (inGap : Bool)
  deriving DecidableEq, Repr

/-- What a character leads to; the text that it adds is in reverse. -/
inductive QuoteStep
  | more (state : QuoteState) (added : List Char)
  /-- The string has ended with the character, or in front of it. -/
  | ended (added : List Char) (consumed : Bool)
  | refused

namespace QuoteState

/-- The characters that may stand in a string as they are. -/
def isPlain (c : Char) : Bool :=
  c == '\t' || (0x20 ≤ c.toNat && c.toNat ≠ 0x7F)

def simpleEscape? (c : Char) : Option Char :=
  if c = 'b' then some '\x08'
  else if c = 't' then some '\t'
  else if c = 'n' then some '\n'
  else if c = 'f' then some '\x0c'
  else if c = 'r' then some '\r'
  else if c = '"' then some '"'
  else if c = '\\' then some '\\'
  else none

/-- A character in the text. -/
def plainStep (style : QuoteStyle) (before : List Char) (c : Char) : QuoteStep :=
  if c = style.quote then
    if style.multiline then .more (quotes 1) before else .ended before true
  else if c = '\\' ∧ style.quote = '"' then .more slash before
  else if c = '\n' then if style.multiline then .more plain ('\n' :: before) else .refused
  else if c = '\r' then if style.multiline then .more (carriage false) before else .refused
  else if isPlain c then .more plain (c :: before)
  else .refused

/-- A character behind a backslash. -/
def slashStep (style : QuoteStyle) (c : Char) : QuoteStep :=
  match simpleEscape? c with
  | some char => .more plain [char]
  | none =>
    if c = 'u' then .more (unicode 4 0) []
    else if c = 'U' then .more (unicode 8 0) []
    else if !style.multiline then .refused
    else if isBlank c then .more (gap false) []
    else if c = '\n' then .more (gap true) []
    else if c = '\r' then .more (carriage true) []
    else .refused

/-- A hexadecimal digit of an escape. -/
def unicodeStep (missing value : Nat) (c : Char) : QuoteStep :=
  match Text.hexValue? c with
  | none => .refused
  | some digit =>
    let value := 16 * value + digit
    if 1 < missing then .more (unicode (missing - 1) value) []
    else if value.isValidChar then .more plain [Char.ofNat value]
    else .refused

/-- One more character. -/
def step (style : QuoteStyle) : QuoteState → Char → QuoteStep
  | plain, c => plainStep style [] c
  | quotes count, c =>
    if c = style.quote then
      if count = 4 then .ended [style.quote, style.quote] true else .more (quotes (count + 1)) []
    else if 3 ≤ count then .ended (List.replicate (count - 3) style.quote) false
    else plainStep style (List.replicate count style.quote) c
  | slash, c => slashStep style c
  | unicode missing value, c => unicodeStep missing value c
  | gap crossed, c =>
    if isBlank c then .more (gap crossed) []
    else if c = '\n' then .more (gap true) []
    else if c = '\r' then .more (carriage true) []
    else if crossed then plainStep style [] c
    else .refused
  | carriage inGap, c =>
    if c = '\n' then .more (if inGap then gap true else plain) (if inGap then [] else ['\n'])
    else .refused

/-- What the end of the text leads to. -/
def finish? (style : QuoteStyle) : QuoteState → Option (List Char)
  | quotes count =>
    if 3 ≤ count then some (List.replicate (count - 3) style.quote) else none
  | _ => none

/-- Reads the rest of a string; the text in front is in reverse. -/
def run (style : QuoteStyle) (state : QuoteState) (done : List Char) : Scan String
  | [] =>
    match state.finish? style with
    | some added => .ok (String.ofList (added ++ done).reverse, [])
    | none => .error 0
  | c :: rest =>
    match state.step style c with
    | .more next added => run style next (added ++ done) rest
    | .ended added consumed =>
      .ok (String.ofList (added ++ done).reverse, if consumed then rest else c :: rest)
    | .refused => faultAt (c :: rest)

end QuoteState

/-- The first line end of a string on several lines does not count. -/
def skipFirstLineEnd : List Char → List Char
  | '\n' :: rest => rest
  | '\r' :: '\n' :: rest => rest
  | text => text

def lineString (quote : Char) : Scan String := fun text => do
  QuoteState.run ⟨quote, false⟩ .plain [] (← expect quote text)

/-- A string of either kind. -/
def quotedString (quote : Char) : Scan String
  | a :: b :: c :: rest =>
    if a = quote ∧ b = quote ∧ c = quote then
      QuoteState.run ⟨quote, true⟩ .plain [] (skipFirstLineEnd rest)
    else lineString quote (a :: b :: c :: rest)
  | text => lineString quote text

end TransactionLedger.Toml
