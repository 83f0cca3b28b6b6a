import TransactionLedger.Text.Digits

/-!
# Media types

A media type is a type and a subtype with parameters behind them. It counts as JSON if the type is
`application` and the subtype is `json` or has the suffix `json`, in any case.
-/

namespace TransactionLedger.Http

/-- A media type without its parameters. -/
structure MediaType where
  main : List Char
  sub : List Char
  deriving DecidableEq, Repr

/-- The characters of the parts of a media type. -/
def isTokenChar (c : Char) : Bool :=
  c.isAlphanum || ['!', '#', '$', '%', '&', '\'', '*', '+', '-', '.', '^', '_', '\x60', '|', '~'].contains c

/-- The characters between quotes. -/
def isQuotedChar (c : Char) : Bool :=
  32 ≤ c.toNat && c.toNat < 127

/-- Where the reader of parameters stands. -/
inductive ParameterState
  | nameStart
  | name
  | valueStart
  | value
  | quotedStart
  | quoted
  | afterQuote
  deriving DecidableEq, Repr

namespace ParameterState

/-- One more character; nothing if it does not fit. -/
def step? : ParameterState → Char → Option ParameterState
  | nameStart, c => if c = ' ' then some nameStart else if isTokenChar c then some name else none
  | name, c => if c = '=' then some valueStart else if isTokenChar c then some name else none
  | valueStart, c =>
    if c = '"' then some quotedStart else if isTokenChar c then some value else none
  | value, c => if c = ';' then some nameStart else if isTokenChar c then some value else none
  | quotedStart, c => if isQuotedChar c then some quoted else none
  | quoted, c => if c = '"' then some afterQuote else if isQuotedChar c then some quoted else none
  | afterQuote, c => if c = ';' then some nameStart else if c = ' ' then some afterQuote else none

/-- The parameters may end here. -/
def mayEnd : ParameterState → Bool
  | nameStart => true
  | valueStart => true
  | value => true
  | afterQuote => true
  | _ => false

/-- The rest of a text is well-formed. -/
def accepts (state : ParameterState) : List Char → Bool
  | [] => state.mayEnd
  | c :: rest =>
    match state.step? c with
    | some next => next.accepts rest
    | none => false

end ParameterState

namespace MediaType

/-- What may follow the subtype: nothing, or parameters behind a semicolon or a blank. -/
def parametersFit : List Char → Bool
  | [] => true
  | separator :: rest => (separator == ';' || separator == ' ') && ParameterState.nameStart.accepts rest

/-- Reads a media type. -/
def parse? (text : List Char) : Option MediaType :=
  let main := text.takeWhile isTokenChar
  match text.dropWhile isTokenChar with
  | '/' :: rest =>
    let sub := rest.takeWhile isTokenChar
    if main.isEmpty || sub.isEmpty || !parametersFit (rest.dropWhile isTokenChar) then none
    else some ⟨main, sub⟩
  | _ => none

/-- Cuts a subtype at its last plus sign, unless that is its first character. -/
def splitSuffix (sub : List Char) : List Char × Option (List Char) :=
  let suffix := (sub.reverse.takeWhile (· ≠ '+')).reverse
  let front := sub.take (sub.length - suffix.length - 1)
  if front.isEmpty then (sub, none) else (front, some suffix)

/-- The text is a word, in any case. -/
def isWord (word : String) (text : List Char) : Bool :=
  text.map Char.toLower == word.toList

/-- The media type announces a JSON document. -/
def isJson (media : MediaType) : Bool :=
  let (front, suffix) := splitSuffix media.sub
  isWord "application" media.main && (isWord "json" front || suffix.any (isWord "json"))

end MediaType

end TransactionLedger.Http
