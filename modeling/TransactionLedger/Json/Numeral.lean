import TransactionLedger.Json.Basic
import TransactionLedger.Text.Digits

/-!
# Numbers as they are written

A numeral is the spelling of a number: a sign, whole digits, a fraction and an exponent. Reading its
value keeps the significant digits that fit 64 bits, turns the rest into a power of ten, and
multiplies or divides once; the value of a long numeral may therefore differ from the nearest
number by a rounding.
-/

namespace TransactionLedger.Json

/-- A written exponent: the letter `e` of either case, a sign if there is one, and digits. -/
structure Exponent where
  letter : Char
  sign : Option Char
  digits : List Char
  deriving DecidableEq, Repr

namespace Exponent

/-- The exponent divides. -/
def isDown (exponent : Exponent) : Bool :=
  exponent.sign == some '-'

def text (exponent : Exponent) : List Char :=
  exponent.letter :: exponent.sign.toList ++ exponent.digits

end Exponent

/-- The parts of a written number. -/
structure Numeral where
  negative : Bool
  whole : List Char
  fraction : Option (List Char)
  exponent : Option Exponent
  deriving DecidableEq, Repr

namespace Numeral

/-- A numeral beyond all numbers, which stands for infinity. -/
def infinite (negative : Bool) : Numeral :=
  ⟨negative, ['9'], none, some ⟨'e', none, ['9', '9', '9']⟩⟩

/-- The largest number of 64 bits. -/
def limit : Nat := 0xFFFFFFFFFFFFFFFF

/-- The largest exponent that is counted. -/
def exponentLimit : Nat := 0x7FFFFFFF

/-- Appends digits to a number as long as it fits 64 bits; the rest is given back. -/
def gather (value : Nat) : List Char → Nat × List Char
  | [] => (value, [])
  | c :: rest =>
    let next := 10 * value + Text.digitValue c
    if limit < next then (value, c :: rest) else gather next rest

/-- The number `10^power`, rounded. -/
def powerOfTen? (power : Nat) : Option Decimal.Binary64 :=
  Decimal.Binary64.ofNat? (Decimal.pow 10 power)

/-- Divides by a power of ten, in steps of 308 while the power is larger than that. -/
def scaleDown (x : Decimal.Binary64) (power : Nat) : Option Decimal.Binary64 :=
  if power ≤ 308 then do x.div? (← powerOfTen? power)
  else if x.isZero then some x
  else do
    let next ← x.div? (← powerOfTen? 308)
    scaleDown next (power - 308)
termination_by power

/-- A significand times a power of ten; nothing if it is beyond the largest number. -/
def scale (significand : Nat) (power : Int) : Option Decimal.Binary64 := do
  let x ← Decimal.Binary64.ofNat? significand
  if 0 ≤ power then
    if power ≤ 308 then x.mul? (← powerOfTen? power.toNat)
    else if x.isZero then some x else none
  else scaleDown x power.natAbs

/-- The significand and the power of ten of a numeral. -/
def significand (numeral : Numeral) : Nat × Int :=
  let (value, dropped) := gather 0 numeral.whole
  match numeral.fraction with
  | none => (value, dropped.length)
  | some fraction =>
    let (value, unread) := gather value fraction
    (value, dropped.length - ((fraction.length - unread.length : Nat) : Int))

/-- The value as a number of the binary format. -/
def real? (numeral : Numeral) : Option Decimal.Binary64 := do
  let (value, power) := numeral.significand
  let result ← match numeral.exponent with
    | none => scale value power
    | some written =>
      let exponent := Text.naturalOf written.digits
      if exponentLimit < exponent then
        if value = 0 ∨ written.isDown then some (Decimal.Binary64.zero false) else none
      else scale value (if written.isDown then power - exponent else power + exponent)
  return result.withSign numeral.negative

/-- Digits, or a single zero in their place. -/
def orZero (digits : List Char) : List Char :=
  if digits.isEmpty then ['0'] else digits

/-- The text of a numeral; where the relaxed dialect leaves out digits, there is a zero. -/
def text (numeral : Numeral) : List Char :=
  (if numeral.negative then ['-'] else []) ++ orZero numeral.whole ++
    (match numeral.fraction with
      | some digits => '.' :: orZero digits
      | none => []) ++
    (match numeral.exponent with
      | some exponent => exponent.text
      | none => [])

/-- The numeral has neither a fraction nor an exponent. -/
def isWhole (numeral : Numeral) : Bool :=
  numeral.fraction.isNone && numeral.exponent.isNone

/-- The value of a numeral; nothing if it is beyond the largest number. A whole number that fits 64
bits is an integer, but a negative zero is not. -/
def value? (numeral : Numeral) : Option Number :=
  let n := Text.naturalOf numeral.whole
  if numeral.isWhole ∧ n ≤ limit ∧ ¬ numeral.negative then some (.integer n)
  else if numeral.isWhole ∧ numeral.negative ∧ 0 < n ∧ n ≤ 0x8000000000000000 then
    some (.integer (-(n : Int)))
  else numeral.real?.map .real

end Numeral

end TransactionLedger.Json
