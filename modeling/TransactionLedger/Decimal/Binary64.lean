import TransactionLedger.Decimal.Rounding

/-!
# Numbers of 64 bits

The finite numbers of the 64-bit binary format, held as a sign, a significand below `2^53` and an
exponent, so that every operation is exact arithmetic followed by one rounding. Results beyond the
largest number are refused, since no document can hold them.
-/

namespace TransactionLedger.Decimal

/-- A finite number of 64 bits: `± significand · 2^exponent`. -/
structure Binary64 where
  negative : Bool
  magnitude : Scaled
  deriving DecidableEq, Repr

namespace Binary64

/-- The bits of a full significand. -/
def precision : Nat := 53

def leastExponent : Int := -1074

def largestExponent : Int := 971

/-- The number nearest to a quotient, unless it lies beyond the largest one. -/
def ofQuotient? (negative : Bool) (numerator denominator : Nat) : Option Binary64 :=
  let magnitude := roundQuotient precision (some leastExponent) numerator denominator
  if magnitude.exponent ≤ largestExponent then some ⟨negative, magnitude⟩ else none

def zero (negative : Bool) : Binary64 :=
  ⟨negative, ⟨0, leastExponent⟩⟩

def isZero (x : Binary64) : Bool :=
  x.magnitude.significand == 0

def withSign (x : Binary64) (negative : Bool) : Binary64 :=
  { x with negative := negative }

/-- The number nearest to a natural number. -/
def ofNat? (n : Nat) : Option Binary64 :=
  ofQuotient? false n 1

/-- The product, rounded. -/
def mul? (x y : Binary64) : Option Binary64 :=
  ofQuotient? (x.negative != y.negative)
    (x.magnitude.numerator * y.magnitude.numerator)
    (x.magnitude.denominator * y.magnitude.denominator)

/-- The quotient of a number by a number other than zero, rounded. -/
def div? (x y : Binary64) : Option Binary64 :=
  ofQuotient? (x.negative != y.negative)
    (x.magnitude.numerator * y.magnitude.denominator)
    (x.magnitude.denominator * y.magnitude.numerator)

/-- The 64 bits: sign, eleven bits of exponent, 52 bits of significand without its leading one. -/
def toBits (x : Binary64) : Nat :=
  let sign := if x.negative then 0x8000000000000000 else 0
  let m := x.magnitude.significand
  let leading := 0x10000000000000
  if m < leading then sign + m
  else sign + (x.magnitude.exponent - leastExponent + 1).toNat * leading + (m - leading)

/-- The signed numerator over `denominator`. -/
def signedNumerator (x : Binary64) : Int :=
  if x.negative then -(x.magnitude.numerator : Int) else x.magnitude.numerator

/-- How two numbers compare; the two zeros are equal. -/
def order (x y : Binary64) : Ordering :=
  compare (x.signedNumerator * y.magnitude.denominator) (y.signedNumerator * x.magnitude.denominator)

/-- How a number compares with an integer. -/
def orderInt (x : Binary64) (n : Int) : Ordering :=
  compare x.signedNumerator (n * x.magnitude.denominator)

end Binary64

end TransactionLedger.Decimal
