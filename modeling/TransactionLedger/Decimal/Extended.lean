import TransactionLedger.Decimal.Binary64

/-!
# Scaling by powers of ten in 64 bits

Numbers with a significand of 64 bits, as they are used between decimal text and the 64-bit binary
format. A power of ten is multiplied in step by step, hundreds first, then tens, then single powers;
each step rounds, so the result may differ from the nearest number in its last bit.
-/

namespace TransactionLedger.Decimal

namespace Extended

/-- The bits of a significand. -/
def precision : Nat := 64

/-- The number nearest to a quotient. -/
def ofQuotient (numerator denominator : Nat) : Scaled :=
  roundQuotient precision none numerator denominator

/-- The product, rounded. -/
def mul (x y : Scaled) : Scaled :=
  let product := ofQuotient (x.significand * y.significand) 1
  ⟨product.significand, product.exponent + x.exponent + y.exponent⟩

/-- The power `10^power`, rounded. -/
def powerOfTen (power : Int) : Scaled :=
  ofQuotient (pow 10 power.toNat) (pow 10 (-power).toNat)

/-- Multiplies by a number a number of times. -/
def mulTimes (factor : Scaled) : Nat → Scaled → Scaled
  | 0, x => x
  | count + 1, x => mulTimes factor count (mul x factor)

/-- Multiplies by a power of ten, in steps of 100, 10 and 1. -/
def scale (x : Scaled) (power : Int) : Scaled :=
  let sign : Int := if power < 0 then -1 else 1
  let count := power.natAbs
  let x := mulTimes (powerOfTen (sign * 100)) (count / 100) x
  let x := mulTimes (powerOfTen (sign * 10)) (count % 100 / 10) x
  mulTimes (powerOfTen sign) (count % 10) x

def order (x y : Scaled) : Ordering :=
  let least := min x.exponent y.exponent
  compare (x.significand * pow 2 (x.exponent - least).toNat)
    (y.significand * pow 2 (y.exponent - least).toNat)

/-- The largest whole number below or at a number. -/
def floor (x : Scaled) : Nat :=
  x.significand * pow 2 x.exponent.toNat / pow 2 (-x.exponent).toNat

/-- The number rounded to the 64-bit binary format; nothing if it lies beyond the largest number
there. -/
def toBinary64? (negative : Bool) (x : Scaled) : Option Binary64 :=
  let largest : Scaled := ⟨0x1FFFFFFFFFFFFF, Binary64.largestExponent⟩
  if order x largest = .gt then none
  else if x.exponent < -4096 then some (.zero negative)
  else Binary64.ofQuotient? negative x.numerator x.denominator

end Extended

end TransactionLedger.Decimal
