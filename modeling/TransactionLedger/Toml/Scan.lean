import TransactionLedger.Text.Digits

/-!
# Scanning

A scanner takes the start of a text and gives a result and the rest. A fault is known by the number
of characters from its place to the end of the text, which fixes the place in the document.
-/

namespace TransactionLedger.Toml

/-- The number of characters from a fault to the end of the text. -/
abbrev Fault := Nat

/-- A scanner. -/
abbrev Scan (α : Type) := List Char → Except Fault (α × List Char)

/-- A fault at the start of a text. -/
def faultAt {α : Type} (text : List Char) : Except Fault α :=
  .error text.length

/-- The blanks within a line. -/
def isBlank (c : Char) : Bool :=
  c == ' ' || c == '\t'

def skipBlanks (text : List Char) : List Char :=
  text.dropWhile isBlank

/-- The characters that may stand in comments. -/
def isCommentChar (c : Char) : Bool :=
  c == '\t' || (0x20 ≤ c.toNat && c.toNat ≠ 0x7F)

def skipComment : List Char → List Char
  | '#' :: rest => rest.dropWhile isCommentChar
  | text => text

/-- The rest behind the end of a line; the end of the text ends a line as well. -/
def endLine : List Char → Except Fault (List Char)
  | [] => .ok []
  | '\n' :: rest => .ok rest
  | '\r' :: '\n' :: rest => .ok rest
  | text => faultAt text

/-- The rest behind a line on which nothing but blanks and a comment follows. -/
def closeLine (text : List Char) : Except Fault (List Char) :=
  endLine (skipComment (skipBlanks text))

/-- One given character. -/
def expect (c : Char) : List Char → Except Fault (List Char)
  | first :: rest => if first = c then .ok rest else faultAt (first :: rest)
  | [] => .error 0

/-- Further digits of a run; an underscore may stand between two digits. -/
def moreDigits (isDigit : Char → Bool) (done : List Char) : Scan (List Char)
  | [] => .ok (done.reverse, [])
  | '_' :: rest =>
    match rest with
    | c :: more =>
      if isDigit c then moreDigits isDigit (c :: done) more else faultAt (c :: more)
    | [] => .error 0
  | c :: rest =>
    if isDigit c then moreDigits isDigit (c :: done) rest else .ok (done.reverse, c :: rest)

def digitRun (isDigit : Char → Bool) : Scan (List Char)
  | [] => .error 0
  | c :: rest => if isDigit c then moreDigits isDigit [c] rest else faultAt (c :: rest)

/-- A number of exactly some digits within bounds. -/
def fixedNumber (width least most : Nat) : Scan Nat := fun text =>
  let digits := (text.take width).takeWhile Text.isDigit
  let value := Text.naturalOf digits
  if digits.length = width ∧ least ≤ value ∧ value ≤ most then .ok (value, text.drop width)
  else faultAt text

end TransactionLedger.Toml
