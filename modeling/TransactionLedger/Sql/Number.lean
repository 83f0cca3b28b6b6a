import TransactionLedger.Decimal.Extended
import TransactionLedger.Json.Numeral
import TransactionLedger.Sql.Value

/-!
# Numbers between text and the database

How the database reads a numeral, and how it writes a number where text is needed. A whole number
that fits 64 bits with a sign is an integer. Every other numeral is scaled in 64 bits by its power
of ten; a number beyond the largest one is infinity. In text a number of the binary format has at
most fifteen digits.
-/

namespace TransactionLedger.Sql

namespace Numeral

open Json

/-- The largest significand to which a further digit is appended. -/
def appendLimit : Nat := (0xFFFFFFFFFFFFFFFF - 9) / 10

/-- Appends digits until the significand is full, and counts those that are left over. -/
def appendWhole (significand : Nat) : List Char → Nat × Nat
  | [] => (significand, 0)
  | c :: rest =>
    let next := 10 * significand + Text.digitValue c
    if appendLimit ≤ next then (next, rest.length) else appendWhole next rest

/-- Appends the digits of a fraction until the significand is full, and counts those taken. -/
def appendFraction (significand taken : Nat) : List Char → Nat × Nat
  | [] => (significand, taken)
  | c :: rest =>
    if significand < appendLimit then
      appendFraction (10 * significand + Text.digitValue c) (taken + 1) rest
    else (significand, taken)

/-- The number that the digits of an exponent denote; a large one counts as ten thousand. -/
def exponentValue (digits : List Char) : Nat :=
  digits.foldl (fun value c => if value < 10000 then 10 * value + Text.digitValue c else 10000) 0

/-- Moves powers of ten from a positive exponent to the significand while there is room. -/
def absorb (significand : Nat) : Nat → Nat × Nat
  | 0 => (significand, 0)
  | exponent + 1 =>
    if significand < 0xFFFFFFFFFFFFFFFF / 10 then absorb (10 * significand) exponent
    else (significand, exponent + 1)

/-- Moves zeros at the end of the significand to a negative exponent. -/
def release (significand : Nat) : Nat → Nat × Nat
  | 0 => (significand, 0)
  | exponent + 1 =>
    if significand % 10 = 0 then release (significand / 10) exponent
    else (significand, exponent + 1)

/-- The significand and the power of ten of a numeral. -/
def significand (numeral : Numeral) : Nat × Int :=
  let (whole, dropped) := appendWhole 0 numeral.whole
  let (value, taken) := appendFraction whole 0 (numeral.fraction.getD [])
  let exponent : Int := match numeral.exponent with
    | none => 0
    | some written =>
      if written.isDown then -(exponentValue written.digits : Int) else exponentValue written.digits
  (value, exponent + dropped - taken)

/-- The value of a scaled significand in 64 bits. -/
def scaledValue (negative : Bool) (significand : Nat) (power : Int) : Value :=
  let scaled := Decimal.Extended.scale (Decimal.Extended.ofQuotient significand 1) power
  match Decimal.Extended.toBinary64? negative scaled with
  | some x => .real x
  | none => .infinite negative

/-- The number of the binary format that a numeral denotes, or infinity. -/
def realValue (numeral : Numeral) : Value :=
  let (value, power) := significand numeral
  if value = 0 then .real (.zero numeral.negative)
  else if 0 ≤ power then
    let (value, power) := absorb value power.toNat
    scaledValue numeral.negative value power
  else
    let (value, power) := release value power.natAbs
    scaledValue numeral.negative value (-(power : Int))

/-- The value of a numeral in the database. -/
def value (numeral : Numeral) : Value :=
  let n := Text.naturalOf numeral.whole
  let signed : Int := if numeral.negative then -(n : Int) else n
  if numeral.isWhole ∧ IsSigned signed then .integer signed else realValue numeral

end Numeral

namespace Real

/-- The most digits of a number in text. -/
def digitLimit : Nat := 15

/-- The least power of ten of the leading digit that is written positionally. -/
def leastPositional : Int := -4

/-- Multiplies by a factor as long as a condition holds, but not too often, and counts. -/
def scaleWhile (condition : Decimal.Scaled → Bool) (factor : Decimal.Scaled) :
    Nat → Decimal.Scaled × Nat → Decimal.Scaled × Nat
  | 0, state => state
  | fuel + 1, (x, count) =>
    if condition x then scaleWhile condition factor fuel (Decimal.Extended.mul x factor, count + 1)
    else (x, count)

/-- Multiplies by `10^step` as long as the condition holds; the power of ten of the result is kept.
Twenty steps are more than any number needs. -/
def approach (condition : Decimal.Scaled → Bool) (step : Int) (state : Decimal.Scaled × Int) :
    Decimal.Scaled × Int :=
  let (x, count) := scaleWhile condition (Decimal.Extended.powerOfTen step) 20 (state.1, 0)
  (x, state.2 - step * count)

/-- The number is at least a power of ten. -/
def reaches (power : Int) (x : Decimal.Scaled) : Bool :=
  Decimal.Extended.order x (Decimal.Extended.powerOfTen power) != .lt

/-- The number is below a power of ten. -/
def below (power : Int) (x : Decimal.Scaled) : Bool :=
  Decimal.Extended.order x (Decimal.Extended.powerOfTen power) == .lt

/-- A positive number as a whole number of 18 or 19 digits times a power of ten. -/
def wholeDigits (x : Decimal.Scaled) : Nat × Int :=
  let state := (x, (0 : Int))
  let (x, power) :=
    if reaches 19 x then
      approach (reaches 19) (-1) (approach (reaches 29) (-10) (approach (reaches 119) (-100) state))
    else
      approach (below 17) 1 (approach (below 7) 10 (approach (below (-97)) 100 state))
  (Decimal.Extended.floor x, power)

/-- At most fifteen digits, the last one rounded, a half upwards, without zeros at the end, and the
power of ten of the first digit. -/
def roundedDigits (x : Decimal.Scaled) : List Char × Int :=
  let (n, power) := wholeDigits x
  let digits := Text.decimal n
  let leading : Int := power + digits.length - 1
  let unit := Decimal.pow 10 (digits.length - digitLimit)
  let rounded := Text.decimal ((n + unit / 2) / unit)
  let leading := if digitLimit < rounded.length then leading + 1 else leading
  let kept := (rounded.reverse.dropWhile (· == '0')).reverse
  (kept, leading)

/-- Digits with a point; the leading one has a given power of ten. -/
def positional (digits : List Char) (leading : Int) : List Char :=
  if leading < 0 then
    '0' :: '.' :: List.replicate (-leading - 1).toNat '0' ++ digits
  else
    let width := leading.toNat + 1
    let fraction := digits.drop width
    digits.take width ++ List.replicate (width - digits.length) '0' ++
      '.' :: (if fraction.isEmpty then ['0'] else fraction)

/-- The text of a positive number. -/
def magnitudeText (x : Decimal.Scaled) : List Char :=
  let (digits, leading) := roundedDigits x
  if leastPositional ≤ leading ∧ leading < digitLimit then positional digits leading
  else
    positional digits 0 ++ 'e' :: (if leading < 0 then '-' else '+') ::
      Text.padded 2 leading.natAbs

def text (x : Decimal.Binary64) : List Char :=
  if x.isZero then ['0', '.', '0']
  else (if x.negative then ['-'] else []) ++ magnitudeText x.magnitude

end Real

/-- A character that bytes spell, or the replacement character. -/
def orReplacement (c : Option Char) : Char :=
  c.getD '\uFFFD'

/-- A value as text; null has none. -/
def Value.textForm? : Value → Option (List Char)
  | .null => none
  | .integer value => some (Text.decimalInt value)
  | .real value => some (Real.text value)
  | .infinite negative => some ((if negative then ['-'] else []) ++ ['I', 'n', 'f'])
  | .text value => some value.toList
  | .blob bytes => some ((Text.decodeUtf8 bytes).map orReplacement)

end TransactionLedger.Sql
