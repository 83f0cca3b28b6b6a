import TransactionLedger.Json.Lexer
import TransactionLedger.Json.Node

/-!
# The relaxed dialect

A document in the relaxed dialect may have comments, more kinds of blanks, strings between single
quotes, bare words as keys, hexadecimal numbers, numbers with a plus sign or without digits on one
side of the point, and infinity. It ends at its first NUL character. Every document of the strict
dialect means the same here, save that here its parts are not held to the strict limits.
-/

namespace TransactionLedger.Json

/-- The blanks of the relaxed dialect beyond those of the strict one. -/
def isRelaxedSpace (c : Char) : Bool :=
  let n := c.toNat
  isSpace c || n == 0x0B || n == 0x0C || n == 0xA0 || n == 0x1680 ||
    (0x2000 ≤ n && n ≤ 0x200A) || n == 0x2028 || n == 0x2029 || n == 0x202F || n == 0x205F ||
    n == 0x3000 || n == 0xFEFF

/-- The characters a bare word may start with. -/
def isWordStart (c : Char) : Bool :=
  c.isAlpha || c == '_' || c == '$' || 0x80 ≤ c.toNat

/-- The characters a bare word may go on with. -/
def isWordPart (c : Char) : Bool :=
  isWordStart c || Text.isDigit c

/-- The characters at which a line ends. -/
def isLineEnd (c : Char) : Bool :=
  c == '\n' || c == '\r' || c == '\u2028' || c == '\u2029'

/-- The number with the given hexadecimal digits, as 64 bits with a sign. -/
def hexNumeral (negative : Bool) (digits : List Char) : Numeral :=
  let value := digits.foldl (fun value c => value * 16 + (hexDigit c)) 0
  if 0x10000000000000000 ≤ value then .infinite negative
  else if 0x8000000000000000 ≤ value then
    ⟨!negative, Text.decimal (0x10000000000000000 - value), none, none⟩
  else ⟨negative, Text.decimal value, none, none⟩
where
  /-- The value of a digit. -/
  hexDigit (c : Char) : Nat := (Text.hexValue? c).getD 0

namespace NumberState

/-- One more character of a number in the relaxed dialect: digits may be missing on one side of the
point. -/
def relaxedStep : NumberState → Char → Outcome
  | signed negative, c => if c = '.' then .more (point negative []) else (signed negative).step c
  | point negative whole, c =>
    if Text.isDigit c then .more (fractional negative whole [c])
    else if whole.isEmpty then .refused
    else afterDigits c negative whole (some [])
  | state, c => state.step c

/-- The number that ends here in the relaxed dialect. -/
def relaxedFinish : NumberState → Option Numeral
  | point negative whole => if whole.isEmpty then none else some ⟨negative, whole, some [], none⟩
  | state => state.finish

end NumberState

/-- Where the lexer of the relaxed dialect stands; spellings are held in reverse. -/
inductive RelaxedLexer
  | between
  | slash
  | lineComment
  /-- Inside a comment that a star and a slash end; the last character was a star. -/
  | blockComment (star : Bool)
  | number (state : NumberState)
  | hexMark (negative : Bool)
  | hex (negative : Bool) (digits : List Char)
  | signedWord (negative : Bool) (word : List Char)
  | word (spelling : List Char)
  | string (quote : Char) (spelling : Source)
  | escape (quote : Char) (spelling : Source)
  | afterReturn (quote : Char) (spelling : Source)
  /-- Inside an escape with some hexadecimal digits still to come. -/
  | unicode (quote : Char) (spelling : Source) (missing : Nat)
  | halted
  deriving DecidableEq, Repr

namespace RelaxedLexer

/-- A character between tokens. -/
def start (c : Char) : List Token × RelaxedLexer :=
  if c = '\x00' then ([], halted)
  else if isRelaxedSpace c then ([], between)
  else if c = '/' then ([], slash)
  else if c = '{' then ([.openBrace], between)
  else if c = '}' then ([.closeBrace], between)
  else if c = '[' then ([.openBracket], between)
  else if c = ']' then ([.closeBracket], between)
  else if c = ',' then ([.comma], between)
  else if c = ':' then ([.colon], between)
  else if c = '"' ∨ c = '\'' then ([], string c [])
  else if c = '-' then ([], number (.signed true))
  else if c = '+' then ([], number (.signed false))
  else if c = '.' then ([], number (.point false []))
  else if c = '0' then ([], number (.zero false))
  else if Text.isDigit c then ([], number (.integral false [c]))
  else if isWordStart c then ([], word [c])
  else ([.broken], halted)

/-- Finishes a token and goes on with the character behind it. -/
def resume (token : Token) (c : Char) : List Token × RelaxedLexer :=
  let (tokens, next) := start c
  (token :: tokens, next)

/-- The document is broken here. -/
def stop : List Token × RelaxedLexer :=
  ([.broken], halted)

/-- Infinity with a sign, if the word says so. -/
def signedWordToken (negative : Bool) (spelling : List Char) : Token :=
  let name := String.ofList (spelling.reverse.map Char.toLower)
  if name = "inf" ∨ name = "infinity" then .number (.infinite negative) else .broken

/-- The characters that may follow a backslash on their own. -/
def isSimpleEscape (c : Char) : Bool :=
  Lexer.isSimpleEscape c || c == '\'' || c == '0' || c == 'v' || c == '\n' ||
    c == '\u2028' || c == '\u2029'

/-- A character inside a string. -/
def inString (quote : Char) (spelling : Source) (c : Char) : List Token × RelaxedLexer :=
  if c = quote then ([.string spelling.reverse], between)
  else if c = '\\' then ([], escape quote (some c :: spelling))
  else if c.toNat < 32 then stop
  else ([], string quote (some c :: spelling))

/-- One more character of a number. -/
def inNumber (state : NumberState) (c : Char) : List Token × RelaxedLexer :=
  match state, c with
  | .zero negative, 'x' => ([], hexMark negative)
  | .zero negative, 'X' => ([], hexMark negative)
  | .signed negative, 'i' => ([], signedWord negative ['i'])
  | .signed negative, 'I' => ([], signedWord negative ['I'])
  | state, c =>
    match state.relaxedStep c with
    | .more next => ([], number next)
    | .refused => stop
    | .ended =>
      match state.relaxedFinish with
      | some numeral => resume (.number numeral) c
      | none => stop

/-- One more character: the tokens that it completes, and where the lexer stands then. -/
def step : RelaxedLexer → Char → List Token × RelaxedLexer
  | halted, _ => ([], halted)
  | between, c => start c
  | slash, c =>
    if c = '*' then ([], blockComment false) else if c = '/' then ([], lineComment) else stop
  | lineComment, c =>
    if c = '\x00' then ([], halted) else if isLineEnd c then ([], between) else ([], lineComment)
  | blockComment star, c =>
    if c = '\x00' then stop
    else if star ∧ c = '/' then ([], between) else ([], blockComment (c == '*'))
  | number state, c => inNumber state c
  | hexMark negative, c =>
    if (Text.hexValue? c).isSome then ([], hex negative [c]) else stop
  | hex negative digits, c =>
    if (Text.hexValue? c).isSome then ([], hex negative (c :: digits))
    else resume (.number (hexNumeral negative digits.reverse)) c
  | signedWord negative name, c =>
    if c.isAlpha then ([], signedWord negative (c :: name))
    else resume (signedWordToken negative name) c
  | word spelling, c =>
    if isWordPart c && !isRelaxedSpace c then ([], word (c :: spelling))
    else resume (.word spelling.reverse) c
  | string quote spelling, c => inString quote spelling c
  | escape quote spelling, c =>
    if isSimpleEscape c then ([], string quote (some c :: spelling))
    else if c = '\r' then ([], afterReturn quote (some c :: spelling))
    else if c = 'u' then ([], unicode quote (some c :: spelling) 4)
    else if c = 'x' then ([], unicode quote (some c :: spelling) 2)
    else stop
  | afterReturn quote spelling, c =>
    if c = '\n' then ([], string quote (some c :: spelling)) else inString quote spelling c
  | unicode quote spelling missing, c =>
    if (Text.hexValue? c).isNone then stop
    else if missing ≤ 1 then ([], string quote (some c :: spelling))
    else ([], unicode quote (some c :: spelling) (missing - 1))

/-- The tokens that the end of the document completes. -/
def finish : RelaxedLexer → List Token
  | between => []
  | lineComment => []
  | halted => []
  | number state =>
    match state.relaxedFinish with
    | some numeral => [.number numeral]
    | none => [.broken]
  | hex negative digits => [.number (hexNumeral negative digits.reverse)]
  | signedWord negative name => [signedWordToken negative name]
  | word spelling => [.word spelling.reverse]
  | _ => [.broken]

/-- Takes the rest of a document; the tokens so far are held in reverse. -/
def run (lexer : RelaxedLexer) (done : List Token) : List Char → List Token
  | [] => done.reverse ++ lexer.finish
  | c :: rest =>
    let (tokens, next) := lexer.step c
    run next (tokens.reverse ++ done) rest

end RelaxedLexer

/-- The tokens of a document in the relaxed dialect. -/
def relaxedTokens (text : List Char) : List Token :=
  RelaxedLexer.run .between [] text

/-- Reads a document in the relaxed dialect. -/
def Document.ofRelaxedText (text : String) : Document :=
  let (root, rest) := Node.build .relaxed .value [] (relaxedTokens text.toList)
  ⟨root, !rest.isEmpty⟩

end TransactionLedger.Json
