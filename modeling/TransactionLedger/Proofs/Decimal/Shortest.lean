import Mathlib.Data.Nat.Cast.Order.Field
import TransactionLedger.Decimal.Shortest
import TransactionLedger.Proofs.Decimal.Rounding

/-!
# Shortest decimals

The shortest decimal of a positive number lies in its rounding interval, so it is not zero and not
further above the number than half a step.
-/

namespace TransactionLedger.Decimal

/-- The rational number that decimal digits stand for. -/
def Digits.value (digits : Digits) : ℚ :=
  digits.digits * 10 ^ digits.exponent

namespace Interval

variable {interval : Interval} {candidate : Digits}

/-- Only candidates in the interval are taken. -/
theorem holds_of_best? {exponent : Int} (best : interval.best? exponent = some candidate) :
    interval.holds candidate = true := by
  simp only [best?, Bool.and_eq_true] at best
  split_ifs at best with both even lower upper
  · exact Option.some.inj best ▸ both.1
  · exact Option.some.inj best ▸ both.2
  · exact Option.some.inj best ▸ lower
  · exact Option.some.inj best ▸ upper

theorem bounds_of_holds (holds : interval.holds candidate = true) :
    interval.low * 10 ^ (-candidate.exponent).toNat ≤
        candidate.digits * 10 ^ candidate.exponent.toNat * interval.denominator ∧
      candidate.digits * 10 ^ candidate.exponent.toNat * interval.denominator ≤
        interval.high * 10 ^ (-candidate.exponent).toNat := by
  simp only [Interval.holds] at holds
  split_ifs at holds
  · simp only [Bool.and_eq_true, decide_eq_true_eq] at holds
    exact holds
  · simp only [Bool.and_eq_true, decide_eq_true_eq] at holds
    exact ⟨holds.1.le, holds.2.le⟩

/-- A point of the rounding interval of a positive number is not zero. -/
theorem digits_ne_zero_of_holds (positive : 0 < interval.low)
    (holds : interval.holds candidate = true) : candidate.digits ≠ 0 := by
  intro zero
  have bounds := (bounds_of_holds holds).1
  rw [zero, Nat.zero_mul, Nat.zero_mul] at bounds
  exact absurd bounds (Nat.not_le.mpr (Nat.mul_pos positive (Nat.pow_pos (by decide))))

/-! What the interval compares are the rational numbers. -/

section Compared

variable (positive : 0 < interval.denominator) (bound : Nat)
include positive

theorem le_point_iff :
    bound * 10 ^ (-candidate.exponent).toNat ≤
        candidate.digits * 10 ^ candidate.exponent.toNat * interval.denominator ↔
      (bound / interval.denominator : ℚ) ≤ candidate.value := by
  have divisor : (0 : ℚ) < interval.denominator := Nat.cast_pos.mpr positive
  rw [Digits.value, zpow_eq_div (by norm_num), div_le_iff₀ divisor, ← mul_div_assoc,
    div_mul_eq_mul_div, le_div_iff₀ (by positivity)]
  exact_mod_cast Iff.rfl

theorem point_le_iff :
    candidate.digits * 10 ^ candidate.exponent.toNat * interval.denominator ≤
        bound * 10 ^ (-candidate.exponent).toNat ↔
      candidate.value ≤ (bound / interval.denominator : ℚ) := by
  have divisor : (0 : ℚ) < interval.denominator := Nat.cast_pos.mpr positive
  rw [Digits.value, zpow_eq_div (by norm_num), le_div_iff₀ divisor, ← mul_div_assoc,
    div_mul_eq_mul_div, div_le_iff₀ (by positivity)]
  exact_mod_cast Iff.rfl

end Compared

theorem holds_iff (positive : 0 < interval.denominator) :
    interval.holds candidate = true ↔
      if interval.inclusive = true then
        (interval.low / interval.denominator : ℚ) ≤ candidate.value ∧
          candidate.value ≤ interval.high / interval.denominator
      else
        (interval.low / interval.denominator : ℚ) < candidate.value ∧
          candidate.value < interval.high / interval.denominator := by
  simp only [holds, pow_eq]
  split_ifs
  · simp only [Bool.and_eq_true, decide_eq_true_eq, le_point_iff positive, point_le_iff positive]
  · simp only [Bool.and_eq_true, decide_eq_true_eq, ← not_le, le_point_iff positive,
      point_le_iff positive]

theorem holds_of_lt (positive : 0 < interval.denominator)
    (above : (interval.low / interval.denominator : ℚ) < candidate.value)
    (below : candidate.value < interval.high / interval.denominator) :
    interval.holds candidate = true := by
  rw [holds_iff positive]
  split_ifs
  · exact ⟨above.le, below.le⟩
  · exact ⟨above, below⟩

theorem value_le_of_holds (positive : 0 < interval.denominator)
    (holds : interval.holds candidate = true) :
    candidate.value ≤ interval.high / interval.denominator :=
  (point_le_iff positive interval.high).mp (bounds_of_holds holds).2

end Interval

section FirstGrid

variable {interval : Interval} {leading : Int} {counts : List Nat}

/-- The digits are a candidate of some grid, or the whole part of the number. -/
theorem firstGrid_cases (interval : Interval) (leading : Int) (counts : List Nat) :
    interval.holds (firstGrid interval leading counts) = true ∨
      firstGrid interval leading counts = ⟨interval.value / interval.denominator, 0⟩ := by
  induction counts with
  | nil => exact .inr rfl
  | cons count more ih =>
      simp only [firstGrid]
      cases best : interval.best? (leading + 1 - count) with
      | none => exact ih
      | some candidate => exact .inl (Interval.holds_of_best? best)

/-- If the digits of a positive number are zero, nothing stands behind them. -/
theorem exponent_firstGrid (positive : 0 < interval.low)
    (zero : (firstGrid interval leading counts).digits = 0) :
    (firstGrid interval leading counts).exponent = 0 := by
  rcases firstGrid_cases interval leading counts with holds | whole
  · exact absurd zero (Interval.digits_ne_zero_of_holds positive holds)
  · rw [whole]

theorem value_firstGrid_le (positive : 0 < interval.denominator)
    (ordered : interval.value ≤ interval.high) :
    (firstGrid interval leading counts).value ≤ interval.high / interval.denominator := by
  rcases firstGrid_cases interval leading counts with holds | whole
  · exact Interval.value_le_of_holds positive holds
  · have floor : ((interval.value / interval.denominator : Nat) : ℚ) ≤
        interval.value / interval.denominator := Nat.cast_div_le
    rw [whole, Digits.value, zpow_zero, mul_one]
    refine floor.trans ?_
    gcongr

end FirstGrid

section Shortest

variable {bits : Nat} {least : Int} {scaled : Scaled}

theorem exponent_shortest (positive : 0 < scaled.significand)
    (zero : (shortest bits least scaled).digits = 0) :
    (shortest bits least scaled).exponent = 0 := by
  have low : 0 < (Interval.ofScaled bits least scaled).low := by
    simp only [Interval.ofScaled]
    apply Nat.mul_pos
    · split_ifs <;> omega
    · exact Nat.pow_pos (by decide)
  exact exponent_firstGrid low zero

/-- The shortest decimal is at most half a step above the number. -/
theorem value_shortest_le (bits : Nat) (least : Int) (scaled : Scaled) :
    (shortest bits least scaled).value ≤ (scaled.significand + 1 / 2) * 2 ^ scaled.exponent := by
  have positive : 0 < (Interval.ofScaled bits least scaled).denominator :=
    Nat.mul_pos (by decide) scaled.denominator_pos
  have ordered : (Interval.ofScaled bits least scaled).value ≤
      (Interval.ofScaled bits least scaled).high :=
    Nat.mul_le_mul_right _ (Nat.le_add_right _ 2)
  refine (value_firstGrid_le positive ordered).trans_eq ?_
  simp only [Interval.ofScaled, Scaled.denominator, pow_eq]
  rw [zpow_eq_div two_ne_zero]
  push_cast
  field_simp
  ring

end Shortest

end TransactionLedger.Decimal
