import TransactionLedger.Decimal.Binary64
import TransactionLedger.Toml.Basic
import TransactionLedger.Toml.Scan

/-!
# Numbers and times

Integers have 64 bits with a sign and may be written in four bases; numbers with a point or an
exponent, and dates and times, are only checked for their form.
-/

namespace TransactionLedger.Toml

def daysOfMonth (year month : Nat) : Nat :=
  if month = 2 then
    if year % 4 = 0 ∧ (year % 100 ≠ 0 ∨ year % 400 = 0) then 29 else 28
  else if month = 4 ∨ month = 6 ∨ month = 9 ∨ month = 11 then 30
  else 31

def skipDate (text : List Char) : Except Fault (List Char) := do
  let (year, text) ← fixedNumber 4 0 9999 text
  let text ← expect '-' text
  let (month, text) ← fixedNumber 2 1 12 text
  let text ← expect '-' text
  let (_, text) ← fixedNumber 2 1 (daysOfMonth year month) text
  return text

def skipFraction : List Char → Except Fault (List Char)
  | '.' :: c :: rest =>
    if Text.isDigit c then .ok (rest.dropWhile Text.isDigit) else .ok ('.' :: c :: rest)
  | text => .ok text

def skipTime (text : List Char) : Except Fault (List Char) := do
  let (_, text) ← fixedNumber 2 0 23 text
  let text ← expect ':' text
  let (_, text) ← fixedNumber 2 0 59 text
  let text ← expect ':' text
  let (_, text) ← fixedNumber 2 0 60 text
  skipFraction text

def skipOffset : List Char → Except Fault (List Char)
  | c :: rest =>
    if c = 'Z' ∨ c = 'z' then .ok rest
    else if c = '+' ∨ c = '-' then do
      let (_, text) ← fixedNumber 2 0 23 rest
      let text ← expect ':' text
      let (_, text) ← fixedNumber 2 0 59 text
      return text
    else .ok (c :: rest)
  | [] => .ok []

/-- The text starts like a time of day. -/
def startsTime : List Char → Bool
  | a :: b :: ':' :: _ => Text.isDigit a && Text.isDigit b
  | _ => false

/-- The text starts like a date. -/
def startsDate : List Char → Bool
  | a :: b :: c :: d :: '-' :: _ => [a, b, c, d].all Text.isDigit
  | _ => false

/-- Skips a time of day with its offset behind a date, if there is one. -/
def skipTimeOfDate : List Char → Except Fault (List Char)
  | c :: rest =>
    if (c = 'T' ∨ c = 't' ∨ c = ' ') ∧ startsTime rest then do
      skipOffset (← skipTime rest)
    else .ok (c :: rest)
  | [] => .ok []

/-- The value of digits in a base. -/
def valueInBase (base : Nat) (digits : List Char) : Nat :=
  digits.foldl (fun value c => value * base + (Text.hexValue? c).getD 0) 0

/-- An integer of 64 bits with a sign. -/
def checkedInteger (start : List Char) (place : Nat) (value : Int) (rest : List Char) :
    Except Fault (Value × List Char) :=
  if -0x8000000000000000 ≤ value ∧ value < 0x8000000000000000 then
    .ok (.integer place value, rest)
  else faultAt start

/-- An integer in another base; the marks of the base have been read. -/
def basedInteger (start : List Char) (place base : Nat) (isDigit : Char → Bool)
    (text : List Char) : Except Fault (Value × List Char) := do
  let (digits, rest) ← digitRun isDigit text
  checkedInteger start place (valueInBase base digits) rest

/-- Skips an exponent, if there is one, and gives its sign and digits. -/
def scanExponent : Scan (Option (Bool × List Char))
  | c :: rest =>
    if c = 'e' ∨ c = 'E' then
      match rest with
      | '-' :: more => do
        let (digits, rest) ← digitRun Text.isDigit more
        return (some (true, digits), rest)
      | '+' :: more => do
        let (digits, rest) ← digitRun Text.isDigit more
        return (some (false, digits), rest)
      | more => do
        let (digits, rest) ← digitRun Text.isDigit more
        return (some (false, digits), rest)
    else .ok (none, c :: rest)
  | [] => .ok (none, [])

/-- Skips a fraction, if there is one, and gives its digits. -/
def scanFraction : Scan (Option (List Char))
  | '.' :: rest => do
    let (digits, rest) ← digitRun Text.isDigit rest
    return (some digits, rest)
  | text => .ok (none, text)

/-- An exponent beyond which every number but zero is too large or vanishes. -/
def exponentLimit : Nat := 100000

/-- The number lies beyond the largest one of the 64-bit binary format. -/
def overflows (whole fraction : List Char) (exponent : Bool × List Char) : Bool :=
  let significand := Text.naturalOf (whole ++ fraction)
  let power := min (Text.naturalOf exponent.2) exponentLimit
  if significand = 0 then false
  else if exponent.1 then
    (Decimal.Binary64.ofQuotient? false significand
      (Decimal.pow 10 (fraction.length + power))).isNone
  else
    (Decimal.Binary64.ofQuotient? false (significand * Decimal.pow 10 power)
      (Decimal.pow 10 fraction.length)).isNone

/-- Digits before the point: a zero alone, or a run that starts with another digit. -/
def scanWhole : Scan (List Char)
  | '0' :: rest => .ok (['0'], rest)
  | text => digitRun Text.isDigit text

/-- A decimal number; its sign has been read. -/
def decimalNumber (start : List Char) (place : Nat) (negative : Bool) (text : List Char) :
    Except Fault (Value × List Char) := do
  let (whole, text) ← scanWhole text
  let (fraction, text) ← scanFraction text
  let (exponent, text) ← scanExponent text
  match fraction, exponent with
  | none, none =>
    let value : Int := Text.naturalOf whole
    checkedInteger start place (if negative then -value else value) text
  | fraction, exponent =>
    if !negative && overflows whole (fraction.getD []) (exponent.getD (false, [])) then
      faultAt start
    else return (.float place, text)

/-- Infinity or no number at all; the sign has been read. -/
def specialFloat? : List Char → Option (List Char)
  | 'i' :: 'n' :: 'f' :: rest => some rest
  | 'n' :: 'a' :: 'n' :: rest => some rest
  | _ => none

/-- A number whose sign has been read. -/
def signedNumber (start : List Char) (place : Nat) (negative : Bool) (text : List Char) :
    Except Fault (Value × List Char) :=
  match specialFloat? text with
  | some rest => .ok (.float place, rest)
  | none => decimalNumber start place negative text

/-- A number or a time. -/
def scanNumber (place : Nat) (text : List Char) : Except Fault (Value × List Char) :=
  if startsDate text then do
    return (.time place, ← skipTimeOfDate (← skipDate text))
  else if startsTime text then do
    return (.time place, ← skipTime text)
  else
    match text with
    | '+' :: rest => signedNumber text place false rest
    | '-' :: rest => signedNumber text place true rest
    | '0' :: 'x' :: rest =>
      basedInteger text place 16 (fun c => (Text.hexValue? c).isSome) rest
    | '0' :: 'o' :: rest => basedInteger text place 8 (fun c => '0' ≤ c && c ≤ '7') rest
    | '0' :: 'b' :: rest => basedInteger text place 2 (fun c => c == '0' || c == '1') rest
    | _ => signedNumber text place false text

end TransactionLedger.Toml
