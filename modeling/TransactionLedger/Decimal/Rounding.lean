/-!
# Rounding to a number of bits

A positive rational number is rounded to the nearest `m · 2^e` whose significand `m` has a given
number of bits, an exact tie going to the even significand. Where a least exponent is given, small
numbers keep fewer bits.
-/

namespace TransactionLedger.Decimal

/-- The power of the core library, whatever other powers are in scope. -/
def pow (base exponent : Nat) : Nat :=
  @HPow.hPow Nat Nat Nat (@instHPow Nat Nat instPowNat) base exponent

/-- A significand and a binary exponent; stands for `significand · 2^exponent`. -/
structure Scaled where
  significand : Nat
  exponent : Int
  deriving DecidableEq, Repr

namespace Scaled

/-- The numerator of the quotient that a scaled number stands for. -/
def numerator (scaled : Scaled) : Nat :=
  scaled.significand * pow 2 scaled.exponent.toNat

/-- The denominator of the quotient that a scaled number stands for. -/
def denominator (scaled : Scaled) : Nat :=
  pow 2 (-scaled.exponent).toNat

end Scaled

/-- The nearest integer to a quotient; a tie goes to the even one. -/
def nearestEven (numerator denominator : Nat) : Nat :=
  let quotient := numerator / denominator
  let twice := 2 * (numerator % denominator)
  if twice < denominator then quotient
  else if twice > denominator then quotient + 1
  else quotient + quotient % 2

/-- The quotient divided by `2^exponent`, as numerator and denominator. -/
def shifted (numerator denominator : Nat) (exponent : Int) : Nat × Nat :=
  (numerator * pow 2 (-exponent).toNat, denominator * pow 2 exponent.toNat)

/-- The exponent at which a quotient has the given number of bits before the point. -/
def bitExponent (bits numerator denominator : Nat) : Int :=
  let guess : Int := (numerator.log2 : Int) - denominator.log2 - bits
  let (n, d) := shifted numerator denominator guess
  if n / d < pow 2 bits then guess else guess + 1

/-- Rounds a quotient to a number of bits, with the exponent at least `least` if one is given. -/
def roundQuotient (bits : Nat) (least : Option Int) (numerator denominator : Nat) : Scaled :=
  if numerator = 0 then ⟨0, least.getD 0⟩ else
    let natural := bitExponent bits numerator denominator
    let exponent := match least with
      | some bound => max natural bound
      | none => natural
    let (n, d) := shifted numerator denominator exponent
    let significand := nearestEven n d
    if significand = pow 2 bits then ⟨pow 2 (bits - 1), exponent + 1⟩
    else ⟨significand, exponent⟩

/-- Rounding to a whole number misses by at most one half. -/
theorem nearestEven_error (numerator denominator : Nat) (positive : 0 < denominator) :
    2 * (nearestEven numerator denominator * denominator) ≤ 2 * numerator + denominator ∧
      2 * numerator ≤ 2 * (nearestEven numerator denominator * denominator) + denominator := by
  have division := Nat.div_add_mod numerator denominator
  have small := Nat.mod_lt numerator positive
  have commuted : denominator * (numerator / denominator) =
    numerator / denominator * denominator := Nat.mul_comm _ _
  unfold nearestEven
  simp only
  split
  · omega
  · split
    · rw [Nat.add_mul]
      omega
    · have parity : numerator / denominator % 2 = 0 ∨ numerator / denominator % 2 = 1 := by omega
      rcases parity with even | odd
      · rw [even, Nat.add_mul]
        omega
      · rw [odd, Nat.add_mul]
        omega

end TransactionLedger.Decimal
