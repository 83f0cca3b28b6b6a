import TransactionLedger.Json.Token

/-!
# Cutting a document into tokens

The lexer takes one character at a time. It stops at the first character that fits no token and
marks the place; everything in front of it has been cut in the usual way, so whoever reads the
tokens meets the first problem of the document first.
-/

namespace TransactionLedger.Json

/-- The blanks between tokens. -/
def isSpace (c : Char) : Bool :=
  c == ' ' || c == '\t' || c == '\n' || c == '\r'

/-- How far a number has been read; digits are held in reverse. -/
inductive NumberState
  | signed (negative : Bool)
  | zero (negative : Bool)
  | integral (negative : Bool) (digits : List Char)
  | point (negative : Bool) (whole : List Char)
  | fractional (negative : Bool) (whole digits : List Char)
  | exponent (negative : Bool) (whole : List Char) (fraction : Option (List Char)) (letter : Char)
  | exponentSign (negative : Bool) (whole : List Char) (fraction : Option (List Char))
    (letter sign : Char)
  | exponentDigits (negative : Bool) (whole : List Char) (fraction : Option (List Char))
    (letter : Char) (sign : Option Char) (digits : List Char)
  deriving DecidableEq, Repr

namespace NumberState

/-- The number that ends here, unless something is missing. -/
def finish : NumberState → Option Numeral
  | zero negative => some ⟨negative, ['0'], none, none⟩
  | integral negative digits => some ⟨negative, digits.reverse, none, none⟩
  | fractional negative whole digits => some ⟨negative, whole, some digits.reverse, none⟩
  | exponentDigits negative whole fraction letter sign digits =>
    some ⟨negative, whole, fraction, some ⟨letter, sign, digits.reverse⟩⟩
  | _ => none

/-- What a character does to a number: it goes on, it ends, or it cannot be a number. -/
inductive Outcome
  | more (state : NumberState)
  | ended
  | refused
  deriving DecidableEq, Repr

/-- An exponent may begin after the digits. -/
def afterDigits (c : Char) (negative : Bool) (whole : List Char)
    (fraction : Option (List Char)) : Outcome :=
  if c = 'e' ∨ c = 'E' then .more (exponent negative whole fraction c) else .ended

/-- One more character of a number. -/
def step : NumberState → Char → Outcome
  | signed negative, c =>
    if c = '0' then .more (zero negative)
    else if Text.isDigit c then .more (integral negative [c]) else .refused
  | zero negative, c =>
    if Text.isDigit c then .refused
    else if c = '.' then .more (point negative ['0'])
    else afterDigits c negative ['0'] none
  | integral negative digits, c =>
    if Text.isDigit c then .more (integral negative (c :: digits))
    else if c = '.' then .more (point negative digits.reverse)
    else afterDigits c negative digits.reverse none
  | point negative whole, c =>
    if Text.isDigit c then .more (fractional negative whole [c]) else .refused
  | fractional negative whole digits, c =>
    if Text.isDigit c then .more (fractional negative whole (c :: digits))
    else afterDigits c negative whole (some digits.reverse)
  | exponent negative whole fraction letter, c =>
    if Text.isDigit c then .more (exponentDigits negative whole fraction letter none [c])
    else if c = '+' ∨ c = '-' then .more (exponentSign negative whole fraction letter c)
    else .refused
  | exponentSign negative whole fraction letter sign, c =>
    if Text.isDigit c then .more (exponentDigits negative whole fraction letter (some sign) [c])
    else .refused
  | exponentDigits negative whole fraction letter sign digits, c =>
    if Text.isDigit c then .more (exponentDigits negative whole fraction letter sign (c :: digits))
    else .ended

end NumberState

/-- Where the lexer stands; spellings are held in reverse. -/
inductive Lexer
  | between
  | literal (remaining : List Char) (token : Token)
  | number (state : NumberState)
  | string (spelling : Source)
  | escape (spelling : Source)
  /-- Inside `\u`, with the number of hexadecimal digits still to come. -/
  | unicode (spelling : Source) (missing : Nat)
  | halted
  deriving DecidableEq, Repr

namespace Lexer

/-- The characters that may follow a backslash on their own. -/
def isSimpleEscape (c : Char) : Bool :=
  c == '"' || c == '\\' || c == '/' || c == 'b' || c == 'f' || c == 'n' || c == 'r' || c == 't'

/-- A character between tokens. -/
def start (c : Char) : List Token × Lexer :=
  if isSpace c then ([], between)
  else if c = '{' then ([.openBrace], between)
  else if c = '}' then ([.closeBrace], between)
  else if c = '[' then ([.openBracket], between)
  else if c = ']' then ([.closeBracket], between)
  else if c = ',' then ([.comma], between)
  else if c = ':' then ([.colon], between)
  else if c = '"' then ([], string [])
  else if c = '-' then ([], number (.signed true))
  else if c = '0' then ([], number (.zero false))
  else if Text.isDigit c then ([], number (.integral false [c]))
  else if c = 't' then ([], literal ['r', 'u', 'e'] (.bool true))
  else if c = 'f' then ([], literal ['a', 'l', 's', 'e'] (.bool false))
  else if c = 'n' then ([], literal ['u', 'l', 'l'] .null)
  else ([.broken], halted)

/-- One more character: the tokens that it completes, and where the lexer stands then. -/
def step : Lexer → Option Char → List Token × Lexer
  | halted, _ => ([], halted)
  | string spelling, none => ([], string (none :: spelling))
  | _, none => ([.broken], halted)
  | between, some c => start c
  | literal [] token, some c => let (tokens, next) := start c; (token :: tokens, next)
  | literal (expected :: rest) token, some c =>
    if c = expected then
      match rest with
      | [] => ([token], between)
      | _ => ([], literal rest token)
    else ([.broken], halted)
  | number state, some c =>
    match state.step c with
    | .more next => ([], number next)
    | .refused => ([.broken], halted)
    | .ended =>
      match state.finish with
      | some numeral => let (tokens, next) := start c; (.number numeral :: tokens, next)
      | none => ([.broken], halted)
  | string spelling, some c =>
    if c = '"' then ([.string spelling.reverse], between)
    else if c = '\\' then ([], escape (some c :: spelling))
    else if c.toNat < 32 then ([.broken], halted)
    else ([], string (some c :: spelling))
  | escape spelling, some c =>
    if isSimpleEscape c then ([], string (some c :: spelling))
    else if c = 'u' then ([], unicode (some c :: spelling) 4)
    else ([.broken], halted)
  | unicode spelling missing, some c =>
    match Text.hexValue? c with
    | none => ([.broken], halted)
    | some _ =>
      if missing ≤ 1 then ([], string (some c :: spelling))
      else ([], unicode (some c :: spelling) (missing - 1))

/-- The tokens that the end of the document completes. -/
def finish : Lexer → List Token
  | between => []
  | halted => []
  | number state =>
    match state.finish with
    | some numeral => [.number numeral]
    | none => [.broken]
  | literal [] token => [token]
  | _ => [.broken]

/-- Takes the rest of a document; the tokens so far are held in reverse. -/
def run (lexer : Lexer) (done : List Token) : Source → List Token
  | [] => done.reverse ++ lexer.finish
  | c :: rest =>
    let (tokens, next) := lexer.step c
    run next (tokens.reverse ++ done) rest

end Lexer

/-- The tokens of a document. -/
def tokens (source : Source) : List Token :=
  Lexer.run .between [] source

end TransactionLedger.Json
