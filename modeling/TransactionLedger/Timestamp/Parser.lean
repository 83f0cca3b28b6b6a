import TransactionLedger.Decimal.Rounding
import TransactionLedger.Text.Blank
import TransactionLedger.Text.Digits
import TransactionLedger.Timestamp.Instant

/-!
# Reading timestamps

A timestamp is accepted in six layouts, tried in a fixed order after blanks at both ends are cut:
the stored form with a fraction of three digits, with any fraction or without one; a date and time
with an offset from universal time; a date and time joined by `T`; and a bare date, which is
midnight. A text without an offset is universal time. What is read from a fraction of any length is
cut to milliseconds.
-/

namespace TransactionLedger.Timestamp

/-- The text that is no timestamp. -/
structure TimestampError where
  input : String
  deriving DecidableEq, Repr

namespace TimestampError

def message (error : TimestampError) : String :=
  s!"Invalid timestamp '" ++ error.input ++
    "': expected ISO-8601 or 'YYYY-MM-DD HH:MM:SS.mmm'"

end TimestampError

/-- How a layout writes the part of a second. -/
inductive FractionRule
  /-- No fraction. -/
  | absent
  /-- An optional fraction of exactly three digits. -/
  | millis
  /-- An optional fraction of one digit or more. -/
  | any
  deriving DecidableEq, Repr

/-- The accepted layouts. -/
inductive Layout
  /-- Date, blanks, time of day. -/
  | spaced (fraction : FractionRule)
  /-- Fixed-width date and time with an offset. -/
  | offset
  /-- Date, the letter `T`, time of day. -/
  | lettered
  /-- A date alone. -/
  | dateOnly
  deriving DecidableEq, Repr

/-- A reader takes the start of a text and gives a value and the rest, or refuses. -/
abbrev Scan (α : Type) := List Char → Option (α × List Char)

namespace Scan

/-- Between `least` and `most` digits. -/
def digits (least most : Nat) : Scan Nat := fun text =>
  let run := (text.take most).takeWhile Text.isDigit
  if run.length < least then none else some (Text.naturalOf run, text.drop run.length)

def literal (c : Char) : Scan Unit
  | [] => none
  | first :: rest => if first = c then some ((), rest) else none

/-- Blanks and one or two digits. -/
def twoDigits : Scan Nat := fun text => digits 1 2 (Text.trimLeft text)

/-- Blanks and a year: up to four digits, or a sign and any number of digits. -/
def year : Scan Int := fun text =>
  match Text.trimLeft text with
  | '-' :: rest => (digits 1 rest.length rest).map fun (value, rest) => (-(value : Int), rest)
  | '+' :: rest => (digits 1 rest.length rest).map fun (value, rest) => ((value : Int), rest)
  | rest => (digits 1 4 rest).map fun (value, rest) => ((value : Int), rest)

/-- A date that the calendar and the years of instants have. -/
def checkedDate (year : Int) (month day : Nat) : Option Date :=
  let date : Date := ⟨year, month, day⟩
  if date.Valid ∧ date.InRange then some date else none

/-- A date with parts of free width. -/
def date : Scan Date := fun text => do
  let (year, text) ← year text
  let (_, text) ← literal '-' text
  let (month, text) ← twoDigits text
  let (_, text) ← literal '-' text
  let (day, text) ← twoDigits text
  let date ← checkedDate year month day
  return (date, text)

/-- The nanoseconds that the digits behind the decimal point stand for; digits past the ninth
are dropped. -/
def nanosOf (run : List Char) : Nat :=
  let digits := run.take 9
  Text.naturalOf digits * Decimal.pow 10 (9 - digits.length)

/-- The fraction of a second. -/
def fraction : FractionRule → Scan Nat
  | .absent, text => some (0, text)
  | .millis, '.' :: rest =>
    let run := (rest.take 3).takeWhile Text.isDigit
    if run.length = 3 then some (nanosOf run, rest.drop 3) else none
  | .any, '.' :: rest =>
    let (run, rest) := Text.spanDigits rest
    if run.isEmpty then none else some (nanosOf run, rest)
  | _, text => some (0, text)

/-- The second of the day and the nanoseconds; second 60 is second 59 with a billion nanoseconds
more. -/
def checkedTime (hour minute second nanos : Nat) : Option (Nat × Nat) :=
  if hour ≤ 23 ∧ minute ≤ 59 ∧ second ≤ 60 then
    if second = 60 then some (hour * 3600 + minute * 60 + 59, nanosPerSecond + nanos)
    else some (hour * 3600 + minute * 60 + second, nanos)
  else none

/-- A time of day with parts of free width. -/
def time (rule : FractionRule) : Scan (Nat × Nat) := fun text => do
  let (hour, text) ← twoDigits text
  let (_, text) ← literal ':' text
  let (minute, text) ← twoDigits text
  let (_, text) ← literal ':' text
  let (second, text) ← twoDigits text
  let (nanos, text) ← fraction rule text
  let time ← checkedTime hour minute second nanos
  return (time, text)

/-- A sign: true for a minus, which may be the hyphen or the minus sign. -/
def offsetSign : Scan Bool
  | '+' :: rest => some (false, rest)
  | '-' :: rest => some (true, rest)
  | '−' :: rest => some (true, rest)
  | _ => none

/-- The offset from universal time in seconds. -/
def offset : Scan Int
  | 'Z' :: rest => some (0, rest)
  | 'z' :: rest => some (0, rest)
  | text => do
    let (negative, text) ← offsetSign text
    let (hours, text) ← digits 2 2 text
    let (_, text) ← literal ':' text
    let (minutes, text) ← digits 2 2 text
    guard (hours ≤ 23 ∧ minutes ≤ 59)
    let seconds : Int := (hours * 3600 + minutes * 60 : Nat)
    return (if negative then -seconds else seconds, text)

/-- The character between date and time where the width of all parts is fixed. -/
def separator : Scan Unit
  | [] => none
  | c :: rest => if c = 'T' ∨ c = 't' ∨ c = ' ' then some ((), rest) else none

/-- The instant at a second of a date. -/
def instantAt (date : Date) (time : Nat × Nat) (offset : Int) : Instant :=
  ⟨date.toDays * secondsPerDay + time.1 - offset, time.2⟩

/-- A date and time of fixed width, with an offset. -/
def offsetInstant : Scan Instant := fun text => do
  let (year, text) ← digits 4 4 text
  let (_, text) ← literal '-' text
  let (month, text) ← digits 2 2 text
  let (_, text) ← literal '-' text
  let (day, text) ← digits 2 2 text
  let (_, text) ← separator text
  let (hour, text) ← digits 2 2 text
  let (_, text) ← literal ':' text
  let (minute, text) ← digits 2 2 text
  let (_, text) ← literal ':' text
  let (second, text) ← digits 2 2 text
  let (nanos, text) ← fraction .any text
  let (offset, text) ← offset text
  let date ← checkedDate year month day
  let time ← checkedTime hour minute second nanos
  return (instantAt date time offset, text)

/-- The start of a text in one layout. -/
def layout : Layout → Scan Instant
  | .spaced rule => fun text => do
    let (date, text) ← date text
    let (time, text) ← time rule (Text.trimLeft text)
    return (instantAt date time 0, text)
  | .offset => offsetInstant
  | .lettered => fun text => do
    let (date, text) ← date text
    let (_, text) ← literal 'T' text
    let (time, text) ← time .any text
    return (instantAt date time 0, text)
  | .dateOnly => fun text => do
    let (date, text) ← date text
    return (Instant.midnight date, text)

end Scan

namespace Layout

/-- The layouts in the order in which they are tried. -/
def chain : List Layout :=
  [.spaced .millis, .spaced .any, .spaced .absent, .offset, .lettered, .dateOnly]

/-- The instant that the whole of a text gives in one layout. -/
def read? (layout : Layout) (text : List Char) : Option Instant :=
  match Scan.layout layout text with
  | some (instant, []) => some instant
  | _ => none

/-- Cuts to milliseconds what a layout has read, if the layout takes any fraction. -/
def cut : Layout → Instant → Instant
  | .spaced .any | .offset | .lettered => Instant.truncate
  | .spaced .millis | .spaced .absent | .dateOnly => id

end Layout

namespace Instant

/-- Reads a timestamp by the first of some layouts that takes it. -/
def parseBy (layouts : List Layout) (input : String) : Except TimestampError Instant :=
  match layouts.findSome? fun layout =>
    (layout.read? (Text.trim input.toList)).map layout.cut with
  | some instant => .ok instant
  | none => .error ⟨input⟩

/-- Reads a timestamp by the first layout that takes it. -/
def parse (input : String) : Except TimestampError Instant :=
  parseBy Layout.chain input

end Instant

end TransactionLedger.Timestamp
