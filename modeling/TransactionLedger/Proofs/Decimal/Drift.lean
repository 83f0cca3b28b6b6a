import Mathlib.Tactic.GCongr
import TransactionLedger.Proofs.Decimal.Binary64

/-!
# Errors that add up

Where a product or a quotient is rounded after both of its factors have been rounded, the errors of
all three roundings add up, and a little more.
-/

namespace TransactionLedger.Decimal.Binary64

/-- The same sign, and a distance of less than seven steps of the second number. -/
structure IsCloseTo (y x : Binary64) : Prop where
  negative : y.negative = x.negative
  distance : |y.absolute - x.absolute| < 7 * 2 ^ x.magnitude.exponent

section Quotient

variable {negative : Bool} {numerator denominator : Nat} {x : Binary64}

theorem negative_of_ofQuotient? (rounded : ofQuotient? negative numerator denominator = some x) :
    x.negative = negative := by
  simp only [ofQuotient?] at rounded
  split_ifs at rounded
  rw [← Option.some.inj rounded]

theorem abs_sub_le_of_ofQuotient? (positive : 0 < denominator)
    (rounded : ofQuotient? negative numerator denominator = some x) :
    |x.absolute - numerator / denominator| ≤ tolerance (numerator / denominator) := by
  simp only [ofQuotient?] at rounded
  split_ifs at rounded
  rw [← Option.some.inj rounded]
  exact value_roundQuotient_abs_sub_le positive

end Quotient

/-- The number misses an exact value by at most so many parts in `2^53` of it, and by so many times
the least number. -/
def Near (parts tiny : ℚ) (x : Binary64) (exact : ℚ) : Prop :=
  |x.absolute - exact| ≤ parts * (exact / 2 ^ 53) + tiny * 2 ^ leastExponent

section Near

variable {x y z : Binary64} {parts tiny exact factor : ℚ}

theorem Near.mono {moreParts moreTiny : ℚ} (near : Near parts tiny x exact) (nonneg : 0 ≤ exact)
    (lessParts : parts ≤ moreParts) (lessTiny : tiny ≤ moreTiny) :
    Near moreParts moreTiny x exact := by
  refine near.trans ?_
  gcongr

/-- Rounding adds one part, and half of the least number. -/
theorem tolerance_le_add (nonneg : 0 ≤ exact) :
    tolerance exact ≤ exact / 2 ^ 53 + 2 ^ leastExponent / 2 := by
  have unit : (0 : ℚ) ≤ exact / 2 ^ 53 := by positivity
  have least : (0 : ℚ) ≤ 2 ^ leastExponent / 2 := by positivity
  exact max_le (by linarith) (by linarith)

theorem Near.mul (near : Near 1 0 x exact) (nearFactor : Near 1 0 y factor) (nonneg : 0 ≤ exact)
    (factorNonneg : 0 ≤ factor) (multiplied : x.mul? y = some z) :
    Near (13 / 4) (1 / 2) z (exact * factor) := by
  have rounding := abs_sub_le_of_ofQuotient?
    (Nat.mul_pos x.magnitude.denominator_pos y.magnitude.denominator_pos) multiplied
  rw [← product_eq_div] at rounding
  have tolerance := tolerance_le_add (mul_nonneg x.absolute_nonneg y.absolute_nonneg)
  simp only [Near, one_mul, zero_mul, add_zero] at near nearFactor
  have product : |x.absolute * y.absolute - exact * factor| ≤
      17 / 8 * (exact * factor / 2 ^ 53) := by
    have split : x.absolute * y.absolute - exact * factor =
        (x.absolute - exact) * factor + (x.absolute - exact) * (y.absolute - factor) +
          exact * (y.absolute - factor) := by ring
    rw [split]
    calc |(x.absolute - exact) * factor + (x.absolute - exact) * (y.absolute - factor) +
          exact * (y.absolute - factor)|
        ≤ |x.absolute - exact| * factor + |x.absolute - exact| * |y.absolute - factor| +
          exact * |y.absolute - factor| := by
          refine (abs_add_three _ _ _).trans_eq ?_
          rw [abs_mul, abs_mul, abs_mul, abs_of_nonneg nonneg, abs_of_nonneg factorNonneg]
      _ ≤ exact / 2 ^ 53 * factor + exact / 2 ^ 53 * (factor / 2 ^ 53) +
          exact * (factor / 2 ^ 53) := by gcongr
      _ ≤ 17 / 8 * (exact * factor / 2 ^ 53) := by
          have nonneg := mul_nonneg nonneg factorNonneg
          linarith
  have upper := (abs_le.mp product).2
  have nonneg := mul_nonneg nonneg factorNonneg
  refine (abs_sub_le _ (x.absolute * y.absolute) _).trans ?_
  linarith

theorem Near.div (near : Near parts tiny x exact) (more : ℚ) (nearFactor : Near 1 0 y factor)
    (few : parts ≤ 4) (tinyNonneg : 0 ≤ tiny) (nonneg : 0 ≤ exact) (large : 1 ≤ factor)
    (divided : x.div? y = some z) (enough : 9 / 8 * tiny ≤ (more - 1 / 2) * factor) :
    Near (parts + 9 / 4) more z (exact / factor) := by
  have positive : 0 < factor := zero_lt_one.trans_le large
  simp only [Near, one_mul, zero_mul, add_zero] at near nearFactor ⊢
  have divisor : 0 < y.absolute := by linarith [(abs_le.mp nearFactor).1]
  have rounding := abs_sub_le_of_ofQuotient?
    (Nat.mul_pos x.magnitude.denominator_pos (numerator_pos divisor)) divided
  rw [← quotient_eq_div] at rounding
  have quotientNonneg := div_nonneg x.absolute_nonneg y.absolute_nonneg
  have tolerance := tolerance_le_add quotientNonneg
  have least : (0 : ℚ) < 2 ^ leastExponent := by positivity
  -- The exact quotient is missed by the error of the dividend and by that of the divisor.
  have quotient : |x.absolute / y.absolute - exact / factor| ≤
      parts * (exact / factor / 2 ^ 53) + tiny * 2 ^ leastExponent / factor +
        x.absolute / y.absolute / 2 ^ 53 := by
    have split : x.absolute / y.absolute - exact / factor =
        ((x.absolute - exact) - x.absolute / y.absolute * (y.absolute - factor)) / factor := by
      field_simp
      ring
    rw [split, abs_div, abs_of_pos positive, div_le_iff₀ positive]
    calc |x.absolute - exact - x.absolute / y.absolute * (y.absolute - factor)|
        ≤ |x.absolute - exact| + x.absolute / y.absolute * |y.absolute - factor| := by
          refine (abs_sub _ _).trans_eq ?_
          rw [abs_mul, abs_of_nonneg quotientNonneg]
      _ ≤ parts * (exact / 2 ^ 53) + tiny * 2 ^ leastExponent +
          x.absolute / y.absolute * (factor / 2 ^ 53) := by gcongr
      _ = _ := by
          field_simp
  have share : parts * (exact / factor) ≤ 4 * (exact / factor) := by gcongr
  have rest : 9 / 8 * (tiny * 2 ^ leastExponent / factor) ≤ (more - 1 / 2) * 2 ^ leastExponent := by
    rw [← mul_div_assoc, div_le_iff₀ positive]
    linarith [mul_le_mul_of_nonneg_right enough least.le]
  have upper := (abs_le.mp quotient).2
  have exactNonneg := div_nonneg nonneg positive.le
  have restNonneg := div_nonneg (mul_nonneg tinyNonneg least.le) positive.le
  refine (abs_sub_le _ (x.absolute / y.absolute) _).trans ?_
  linarith

end Near

end TransactionLedger.Decimal.Binary64
