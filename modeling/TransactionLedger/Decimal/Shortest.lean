import TransactionLedger.Decimal.Rounding

/-!
# The shortest decimal that reads back

A binary number is written with the fewest decimal digits that lie within its rounding interval:
the numbers whose nearest binary number it is. On a grid of decimals only the two neighbours of the
number can be the nearest point in the interval, so they are the only candidates; of two hits the
nearer one is taken, and of two at the same distance the even one.
-/

namespace TransactionLedger.Decimal

/-- Decimal digits and the power of ten of the last one; stands for `digits · 10^exponent`. -/
structure Digits where
  digits : Nat
  exponent : Int
  deriving DecidableEq, Repr

/-- The quotient is at least `10^exponent`. -/
def reachesPower (numerator denominator : Nat) (exponent : Int) : Bool :=
  denominator * pow 10 exponent.toNat ≤ numerator * pow 10 (-exponent).toNat

/-- The power of ten of the leading digit of a positive quotient. -/
def leadingExponent (numerator denominator : Nat) : Int :=
  let binary : Int := (numerator.log2 : Int) - denominator.log2
  let guess := binary * 30103 / 100000 - 1
  if reachesPower numerator denominator (guess + 2) then guess + 2
  else if reachesPower numerator denominator (guess + 1) then guess + 1
  else guess

/-- The interval of quotients that round to a number, over `4 · denominator`. -/
structure Interval where
  low : Nat
  value : Nat
  high : Nat
  denominator : Nat
  inclusive : Bool

namespace Interval

/-- The rounding interval of `m · 2^e`: half a step to either side, but only a quarter of one
below the least significand of a full exponent. -/
def ofScaled (bits : Nat) (least : Int) (scaled : Scaled) : Interval :=
  let m := scaled.significand
  let scale := pow 2 scaled.exponent.toNat
  let below := if m = pow 2 (bits - 1) ∧ least < scaled.exponent then 1 else 2
  { low := (4 * m - below) * scale
    value := 4 * m * scale
    high := (4 * m + 2) * scale
    denominator := 4 * scaled.denominator
    inclusive := m % 2 == 0 }

/-- `digits · 10^exponent` lies in the interval. -/
def holds (interval : Interval) (candidate : Digits) : Bool :=
  let point := candidate.digits * pow 10 candidate.exponent.toNat * interval.denominator
  let scale := pow 10 (-candidate.exponent).toNat
  if interval.inclusive then
    interval.low * scale ≤ point && point ≤ interval.high * scale
  else
    interval.low * scale < point && point < interval.high * scale

/-- The neighbour of the value on the grid of multiples of `10^exponent` that serves best. -/
def best? (interval : Interval) (exponent : Int) : Option Digits :=
  let n := interval.value * pow 10 (-exponent).toNat
  let d := interval.denominator * pow 10 exponent.toNat
  let lower : Digits := ⟨n / d, exponent⟩
  let upper : Digits := ⟨n / d + 1, exponent⟩
  let below := interval.holds lower
  let above := interval.holds upper
  if below && above then
    if nearestEven n d = n / d then some lower else some upper
  else if below then some lower
  else if above then some upper
  else none

end Interval

/-- The first grid with a candidate, from one digit on. -/
def firstGrid (interval : Interval) (leading : Int) : List Nat → Digits
  | [] => ⟨interval.value / interval.denominator, 0⟩
  | count :: more =>
    match interval.best? (leading + 1 - count) with
    | some candidate => candidate
    | none => firstGrid interval leading more

/-- The shortest decimal of a positive scaled number; 17 digits suffice for 53 bits. -/
def shortest (bits : Nat) (least : Int) (scaled : Scaled) : Digits :=
  let interval := Interval.ofScaled bits least scaled
  firstGrid interval (leadingExponent interval.value interval.denominator)
    [1, 2, 3, 4, 5, 6, 7, 8, 9, 10, 11, 12, 13, 14, 15, 16, 17]

end TransactionLedger.Decimal
