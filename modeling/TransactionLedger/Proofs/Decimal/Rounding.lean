import Mathlib.Algebra.Order.Field.Power
import Mathlib.Algebra.Order.Ring.Abs
import Mathlib.Tactic.FieldSimp
import Mathlib.Tactic.Linarith
import Mathlib.Tactic.NormNum
import Mathlib.Tactic.Positivity
import Mathlib.Tactic.Ring
import TransactionLedger.Decimal.Rounding

/-!
# How far rounding misses

A quotient is rounded on a grid whose step is a power of two. The result misses it by at most half a
step, and the step is so small that the quotient has the given number of bits, unless the least
exponent stops it.
-/

namespace TransactionLedger.Decimal

/-- The rational number that a scaled number stands for. -/
def Scaled.value (scaled : Scaled) : ℚ :=
  scaled.significand * 2 ^ scaled.exponent

theorem pow_eq (base exponent : Nat) : pow base exponent = base ^ exponent :=
  rfl

theorem zpow_eq_div {base : ℚ} (nonzero : base ≠ 0) (exponent : Int) :
    base ^ exponent = base ^ exponent.toNat / base ^ (-exponent).toNat := by
  rw [← zpow_natCast, ← zpow_natCast, ← zpow_sub₀ nonzero]
  congr 1
  omega

theorem Scaled.value_eq_div (scaled : Scaled) :
    scaled.value = scaled.numerator / scaled.denominator := by
  rw [value, zpow_eq_div two_ne_zero, numerator, denominator, pow_eq, pow_eq]
  push_cast
  ring

theorem Scaled.denominator_pos (scaled : Scaled) : 0 < scaled.denominator :=
  Nat.two_pow_pos _

theorem Scaled.value_nonneg (scaled : Scaled) : 0 ≤ scaled.value := by
  rw [value]
  positivity

/-! ## The grid -/

section Shifted

variable {numerator denominator : Nat} {exponent : Int}

theorem shifted_pos (positive : 0 < denominator) :
    0 < (shifted numerator denominator exponent).2 :=
  Nat.mul_pos positive (Nat.two_pow_pos _)

theorem shifted_quotient :
    ((shifted numerator denominator exponent).1 : ℚ) /
        (shifted numerator denominator exponent).2 =
      numerator / denominator / 2 ^ exponent := by
  rw [zpow_eq_div two_ne_zero, shifted, pow_eq, pow_eq]
  push_cast
  field_simp

/-- A quotient is below a power of two on a grid if its whole part is. -/
theorem shifted_div_lt_iff (positive : 0 < denominator) (bits : Nat) :
    (shifted numerator denominator exponent).1 / (shifted numerator denominator exponent).2 <
        2 ^ bits ↔
      (numerator / denominator : ℚ) < 2 ^ (exponent + bits) := by
  have divisor : (0 : ℚ) < (shifted numerator denominator exponent).2 :=
    Nat.cast_pos.mpr (shifted_pos positive)
  rw [Nat.div_lt_iff_lt_mul (shifted_pos positive), ← Nat.cast_lt (α := ℚ), Nat.cast_mul,
    ← div_lt_iff₀ divisor, shifted_quotient, div_lt_iff₀ (by positivity),
    zpow_add₀ two_ne_zero, zpow_natCast, mul_comm]
  push_cast
  rfl

end Shifted

section Log2

variable {numerator denominator : Nat}

theorem two_pow_log2_le (above : 0 < numerator) (positive : 0 < denominator) :
    (2 : ℚ) ^ ((numerator.log2 : Int) - denominator.log2 - 1) ≤ numerator / denominator := by
  have numeratorLeast : (2 : ℚ) ^ numerator.log2 ≤ numerator := by
    exact_mod_cast Nat.log2_self_le above.ne'
  have denominatorMost : (denominator : ℚ) < 2 ^ (denominator.log2 + 1) := by
    exact_mod_cast Nat.lt_log2_self
  rw [le_div_iff₀ (Nat.cast_pos.mpr positive)]
  calc (2 : ℚ) ^ ((numerator.log2 : Int) - denominator.log2 - 1) * denominator
      ≤ 2 ^ ((numerator.log2 : Int) - denominator.log2 - 1) * 2 ^ (denominator.log2 + 1) := by
        gcongr
    _ = 2 ^ numerator.log2 := by
        rw [← zpow_natCast, ← zpow_natCast, ← zpow_add₀ two_ne_zero]
        congr 1
        push_cast
        ring
    _ ≤ numerator := numeratorLeast

theorem lt_two_pow_log2 (numerator : Nat) {denominator : Nat} (positive : 0 < denominator) :
    (numerator / denominator : ℚ) < 2 ^ ((numerator.log2 : Int) - denominator.log2 + 1) := by
  have numeratorMost : (numerator : ℚ) < 2 ^ (numerator.log2 + 1) := by
    exact_mod_cast Nat.lt_log2_self
  have denominatorLeast : (2 : ℚ) ^ denominator.log2 ≤ denominator := by
    exact_mod_cast Nat.log2_self_le positive.ne'
  rw [div_lt_iff₀ (Nat.cast_pos.mpr positive)]
  calc (numerator : ℚ) < 2 ^ (numerator.log2 + 1) := numeratorMost
    _ = 2 ^ ((numerator.log2 : Int) - denominator.log2 + 1) * 2 ^ denominator.log2 := by
        rw [← zpow_natCast, ← zpow_natCast, ← zpow_add₀ two_ne_zero]
        congr 1
        push_cast
        ring
    _ ≤ 2 ^ ((numerator.log2 : Int) - denominator.log2 + 1) * denominator := by gcongr

end Log2

/-- A quotient has the given number of bits before the point at its bit exponent. -/
theorem bitExponent_bounds (bits : Nat) {numerator denominator : Nat} (above : 0 < numerator)
    (positive : 0 < denominator) :
    (2 : ℚ) ^ (bitExponent bits numerator denominator + bits - 1) ≤ numerator / denominator ∧
      (numerator / denominator : ℚ) < 2 ^ (bitExponent bits numerator denominator + bits) := by
  -- The guess is right, or too small by one.
  simp only [bitExponent]
  split
  · rename_i small
    refine ⟨?_, (shifted_div_lt_iff positive bits).mp small⟩
    refine Eq.trans_le ?_ (two_pow_log2_le above positive)
    congr 1
    omega
  · rename_i large
    have least := not_lt.mp (mt (shifted_div_lt_iff positive bits).mpr large)
    refine ⟨?_, ?_⟩
    · refine Eq.trans_le ?_ least
      congr 1
      omega
    · refine (lt_two_pow_log2 numerator positive).trans_eq ?_
      congr 1
      omega

/-! ## The result -/

theorem nearestEven_abs_sub_le {numerator denominator : Nat} (positive : 0 < denominator) :
    |(nearestEven numerator denominator : ℚ) - numerator / denominator| ≤ 1 / 2 := by
  have divisor : (0 : ℚ) < denominator := Nat.cast_pos.mpr positive
  have above : (2 * (nearestEven numerator denominator * denominator) : ℚ) ≤
      2 * numerator + denominator := by
    exact_mod_cast (nearestEven_error numerator denominator positive).1
  have below : (2 * numerator : ℚ) ≤
      2 * (nearestEven numerator denominator * denominator) + denominator := by
    exact_mod_cast (nearestEven_error numerator denominator positive).2
  have misses : (nearestEven numerator denominator : ℚ) - numerator / denominator =
      (nearestEven numerator denominator * denominator - numerator) / denominator := by
    field_simp
  rw [misses, abs_div, abs_of_pos divisor, div_le_iff₀ divisor, abs_le]
  constructor <;> linarith

/-- The exponent of the grid on which a quotient is rounded. -/
def gridExponent (bits : Nat) (least : Option Int) (numerator denominator : Nat) : Int :=
  match least with
  | some bound => max (bitExponent bits numerator denominator) bound
  | none => bitExponent bits numerator denominator

theorem bitExponent_le_gridExponent (bits : Nat) (least : Option Int)
    (numerator denominator : Nat) :
    bitExponent bits numerator denominator ≤ gridExponent bits least numerator denominator := by
  cases least with
  | none => exact le_rfl
  | some bound => exact le_max_left _ _

section Result

variable (bits : Nat) (least : Option Int) {numerator denominator : Nat}

/-- The point of the grid to which a positive quotient is rounded. -/
def gridPoint (bits : Nat) (least : Option Int) (numerator denominator : Nat) : Nat :=
  let grid := shifted numerator denominator (gridExponent bits least numerator denominator)
  nearestEven grid.1 grid.2

/-- A significand with one bit too many is halved. -/
theorem roundQuotient_of_pos (above : 0 < numerator) :
    roundQuotient bits least numerator denominator =
      if gridPoint bits least numerator denominator = 2 ^ bits then
        ⟨2 ^ (bits - 1), gridExponent bits least numerator denominator + 1⟩
      else
        ⟨gridPoint bits least numerator denominator,
          gridExponent bits least numerator denominator⟩ := by
  rw [roundQuotient, if_neg above.ne']
  cases least <;> rfl

theorem gridPoint_abs_sub_le (numerator : Nat) {denominator : Nat} (positive : 0 < denominator) :
    |(gridPoint bits least numerator denominator : ℚ) -
        numerator / denominator / 2 ^ gridExponent bits least numerator denominator| ≤ 1 / 2 := by
  rw [← shifted_quotient]
  exact nearestEven_abs_sub_le (shifted_pos positive)

theorem gridPoint_le (above : 0 < numerator) (positive : 0 < denominator) :
    gridPoint bits least numerator denominator ≤ 2 ^ bits := by
  have error := (abs_le.mp (gridPoint_abs_sub_le bits least numerator positive)).2
  have quotient : (numerator / denominator / 2 ^ gridExponent bits least numerator denominator : ℚ)
      < 2 ^ bits := by
    rw [div_lt_iff₀ (by positivity), ← zpow_natCast, ← zpow_add₀ two_ne_zero]
    calc (numerator / denominator : ℚ)
        < 2 ^ (bitExponent bits numerator denominator + bits) :=
          (bitExponent_bounds bits above positive).2
      _ ≤ 2 ^ ((bits : Int) + gridExponent bits least numerator denominator) := by
          apply zpow_le_zpow_right₀ one_le_two
          have := bitExponent_le_gridExponent bits least numerator denominator
          omega
  have close : (gridPoint bits least numerator denominator : ℚ) < (2 ^ bits : Nat) + 1 := by
    push_cast
    linarith
  exact Nat.lt_succ_iff.mp (by exact_mod_cast close)

variable {bits least} in
/-- A whole number of steps of the grid is not crossed. -/
theorem le_gridPoint (positive : 0 < denominator) {steps : Nat}
    (fits : (steps : ℚ) ≤
      numerator / denominator / 2 ^ gridExponent bits least numerator denominator) :
    steps ≤ gridPoint bits least numerator denominator := by
  have error := (abs_le.mp (gridPoint_abs_sub_le bits least numerator positive)).1
  have close : (steps : ℚ) < gridPoint bits least numerator denominator + 1 := by linarith
  exact Nat.lt_succ_iff.mp (by exact_mod_cast close)

theorem significand_roundQuotient_lt (someBits : 0 < bits) (positive : 0 < denominator) :
    (roundQuotient bits least numerator denominator).significand < 2 ^ bits := by
  rcases Nat.eq_zero_or_pos numerator with rfl | above
  · exact Nat.two_pow_pos bits
  · have atMost := gridPoint_le bits least above positive
    rw [roundQuotient_of_pos bits least above]
    split_ifs with full
    · exact Nat.pow_lt_pow_right one_lt_two (Nat.sub_lt someBits one_pos)
    · exact lt_of_le_of_ne atMost full

theorem value_roundQuotient (someBits : 0 < bits) (above : 0 < numerator) :
    (roundQuotient bits least numerator denominator).value =
      gridPoint bits least numerator denominator *
        2 ^ gridExponent bits least numerator denominator := by
  rw [roundQuotient_of_pos bits least above]
  split_ifs with full
  · rcases Nat.exists_eq_add_one_of_ne_zero someBits.ne' with ⟨fewer, rfl⟩
    rw [Scaled.value, full, zpow_add_one₀ two_ne_zero]
    push_cast
    ring
  · rfl

/-- The result misses the quotient by at most half a step of the grid. -/
theorem value_roundQuotient_abs_sub_le (someBits : 0 < bits) (above : 0 < numerator)
    (positive : 0 < denominator) :
    |(roundQuotient bits least numerator denominator).value - numerator / denominator| ≤
      2 ^ gridExponent bits least numerator denominator / 2 := by
  have step : (0 : ℚ) < 2 ^ gridExponent bits least numerator denominator := by positivity
  have scaled := mul_le_mul_of_nonneg_right (gridPoint_abs_sub_le bits least numerator positive)
    step.le
  rw [← abs_of_pos step, ← abs_mul, abs_of_pos step, sub_mul, div_mul_cancel₀ _ step.ne',
    ← value_roundQuotient bits least someBits above] at scaled
  linarith

/-- The quotient fills its bits, or the least exponent stops it. -/
theorem gridExponent_cases (above : 0 < numerator) (positive : 0 < denominator) :
    (2 : ℚ) ^ (gridExponent bits least numerator denominator + bits - 1) ≤
        numerator / denominator ∨
      least = some (gridExponent bits least numerator denominator) := by
  have fills := (bitExponent_bounds bits above positive).1
  cases least with
  | none => exact .inl fills
  | some bound =>
      rcases max_choice (bitExponent bits numerator denominator) bound with natural | stopped
      · exact .inl (by rwa [gridExponent, natural])
      · exact .inr (congrArg some stopped.symm)

end Result

end TransactionLedger.Decimal
