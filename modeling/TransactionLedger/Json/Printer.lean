import TransactionLedger.Json.Basic
import TransactionLedger.Decimal.Shortest
import TransactionLedger.Text.Digits

/-!
# Printing JSON

Values are printed without blanks. A number of the binary format has the fewest digits that read
back and always a point or an exponent: it is written positionally while the power of ten of its
leading digit is between -5 and 15. In strings only quotes, backslashes and control characters are
escaped.
-/

namespace TransactionLedger.Json

namespace Number

/-- The least power of ten of the leading digit that is written positionally. -/
def leastPositional : Int := -5

/-- The largest power of ten of the leading digit that is written positionally. -/
def largestPositional : Int := 15

/-- Drops zeros at the end, but keeps the first digit. -/
def withoutTrailingZeros (digits : List Char) : List Char :=
  match (digits.reverse.dropWhile (· == '0')).reverse with
  | [] => ['0']
  | kept => kept

/-- Digits with a point before the last `places` of them. -/
def positional (digits : List Char) (leading : Int) : List Char :=
  if leading < 0 then
    '0' :: '.' :: List.replicate (-leading - 1).toNat '0' ++ digits
  else
    let width := leading.toNat + 1
    let whole := digits.take width ++ List.replicate (width - digits.length) '0'
    let fraction := digits.drop width
    whole ++ '.' :: (if fraction.isEmpty then ['0'] else fraction)

/-- One digit, a point if more follow, and the power of ten of the first digit with its sign. -/
def exponential (digits : List Char) (leading : Int) : List Char :=
  let mantissa := match digits with
    | first :: second :: rest => first :: '.' :: second :: rest
    | short => short
  mantissa ++ 'e' :: (if leading < 0 then '-' else '+') :: Text.decimal leading.natAbs

/-- The text of a positive scaled number. -/
def magnitudeText (magnitude : Decimal.Scaled) : List Char :=
  let short := Decimal.shortest Decimal.Binary64.precision Decimal.Binary64.leastExponent magnitude
  let digits := Text.decimal short.digits
  let leading := short.exponent + digits.length - 1
  let digits := withoutTrailingZeros digits
  if leastPositional ≤ leading ∧ leading ≤ largestPositional then positional digits leading
  else exponential digits leading

/-- The text of a number of the binary format. -/
def realText (x : Decimal.Binary64) : List Char :=
  (if x.negative then ['-'] else []) ++
    (if x.isZero then ['0', '.', '0'] else magnitudeText x.magnitude)

def text : Number → List Char
  | integer value => Text.decimalInt value
  | real value => realText value

end Number

/-- How a character is written inside a string. -/
def escaped (c : Char) : List Char :=
  if c = '"' then ['\\', '"']
  else if c = '\\' then ['\\', '\\']
  else if c = '\n' then ['\\', 'n']
  else if c = '\r' then ['\\', 'r']
  else if c = '\t' then ['\\', 't']
  else if c = '\x08' then ['\\', 'b']
  else if c = '\x0c' then ['\\', 'f']
  else if c.toNat < 32 then '\\' :: 'u' :: Text.hexPadded 4 c.toNat
  else [c]

/-- A string between quotes. -/
def quoted (text : String) : List Char :=
  '"' :: text.toList.flatMap escaped ++ ['"']

mutual

/-- The text of a value. -/
def text : Json → List Char
  | null => ['n', 'u', 'l', 'l']
  | bool true => ['t', 'r', 'u', 'e']
  | bool false => ['f', 'a', 'l', 's', 'e']
  | number value => value.text
  | string value => quoted value
  | array items => '[' :: itemsText items
  | object members => '{' :: membersText members

/-- The items of an array up to the closing bracket. -/
def itemsText : List Json → List Char
  | [] => [']']
  | item :: rest => item.text ++ furtherItemsText rest

/-- The items after the first one, each behind a comma. -/
def furtherItemsText : List Json → List Char
  | [] => [']']
  | item :: rest => ',' :: item.text ++ furtherItemsText rest

/-- The members of an object up to the closing brace. -/
def membersText : List (String × Json) → List Char
  | [] => ['}']
  | (key, value) :: rest => quoted key ++ ':' :: value.text ++ furtherMembersText rest

/-- The members after the first one, each behind a comma. -/
def furtherMembersText : List (String × Json) → List Char
  | [] => ['}']
  | (key, value) :: rest => ',' :: quoted key ++ ':' :: value.text ++ furtherMembersText rest

end

/-- A value as a string. -/
def render (value : Json) : String :=
  String.ofList value.text

end TransactionLedger.Json
