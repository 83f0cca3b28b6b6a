import TransactionLedger.Proofs.Decimal.Binary64
import TransactionLedger.Proofs.Decimal.Shortest

/-!
# Which quotients round to a number

A number of the 64-bit format has one canonical form. The quotients that round to it are those
within half a step of it, or within a quarter of one below it where the steps are smaller there; the
ends belong to the interval if the significand is even.
-/

namespace TransactionLedger.Decimal

/-! ## Rounding to a whole number -/

section NearestEven

variable {numerator denominator n : Nat}

theorem nearestEven_of_tie (positive : 0 < denominator) (even : n % 2 = 0)
    (tie : 2 * numerator = 2 * (n * denominator) + denominator ∨
      2 * numerator + denominator = 2 * (n * denominator)) :
    nearestEven numerator denominator = n := by
  have division := Nat.div_add_mod' numerator denominator
  rcases tie with above | below
  · have quotient : numerator / denominator = n := by
      refine Nat.div_eq_of_lt_le (by omega) ?_
      rw [Nat.add_mul]
      omega
    rw [quotient] at division
    have middle : 2 * (numerator % denominator) = denominator := by omega
    simp only [nearestEven, middle, lt_irrefl, if_false, quotient, even, Nat.add_zero]
  · rcases Nat.exists_eq_add_one_of_ne_zero (n := n) (by rintro rfl; omega) with ⟨less, rfl⟩
    rw [Nat.add_mul, Nat.one_mul] at below
    have quotient : numerator / denominator = less := by
      refine Nat.div_eq_of_lt_le (by omega) ?_
      rw [Nat.add_mul]
      omega
    rw [quotient] at division
    have middle : 2 * (numerator % denominator) = denominator := by omega
    have odd : less % 2 = 1 := by omega
    simp only [nearestEven, middle, lt_irrefl, if_false, quotient, odd]

/-- The nearest integer is the one at less than one half, or the even one at one half. -/
theorem nearestEven_eq (positive : 0 < denominator)
    (close : |(numerator / denominator : ℚ) - n| ≤ 1 / 2)
    (even : |(numerator / denominator : ℚ) - n| = 1 / 2 → n % 2 = 0) :
    nearestEven numerator denominator = n := by
  have divisor : (0 : ℚ) < denominator := Nat.cast_pos.mpr positive
  have distance : (numerator / denominator : ℚ) - n = (numerator - n * denominator) / denominator := by
    field_simp
  rcases close.lt_or_eq with near | tie
  · have error : |(nearestEven numerator denominator : ℚ) - numerator / denominator| ≤ 1 / 2 :=
      nearestEven_abs_sub_le positive
    have between : |(nearestEven numerator denominator : ℚ) - n| < 1 := by
      have triangle := abs_sub_le (nearestEven numerator denominator : ℚ)
        (numerator / denominator) n
      linarith
    have whole : |(nearestEven numerator denominator : Int) - n| < 1 := by exact_mod_cast between
    rw [Int.abs_lt_one_iff] at whole
    omega
  · refine nearestEven_of_tie positive (even tie) ?_
    rw [distance] at tie
    rcases eq_or_eq_neg_of_abs_eq tie with above | below
    · left
      rw [div_eq_iff divisor.ne'] at above
      have scaled : (2 * numerator : ℚ) = 2 * (n * denominator) + denominator := by linarith
      exact_mod_cast scaled
    · right
      rw [div_eq_iff divisor.ne'] at below
      have scaled : (2 * numerator + denominator : ℚ) = 2 * (n * denominator) := by linarith
      exact_mod_cast scaled

end NearestEven

/-! ## The grid of a quotient -/

section Grid

variable {numerator denominator : Nat} {exponent : Int}

/-- The bit exponent is the only one at which the quotient has the given number of bits. -/
theorem bitExponent_eq (bits : Nat) (above : 0 < numerator) (positive : 0 < denominator)
    (least : (2 : ℚ) ^ (exponent + bits - 1) ≤ numerator / denominator)
    (most : (numerator / denominator : ℚ) < 2 ^ (exponent + bits)) :
    bitExponent bits numerator denominator = exponent := by
  rcases bitExponent_bounds bits above positive with ⟨fills, fits⟩
  have up := (zpow_lt_zpow_iff_right₀ one_lt_two).mp (fills.trans_lt most)
  have down := (zpow_lt_zpow_iff_right₀ one_lt_two).mp (least.trans_lt fits)
  omega

theorem bitExponent_le (bits : Nat) (above : 0 < numerator) (positive : 0 < denominator)
    (most : (numerator / denominator : ℚ) < 2 ^ (exponent + bits)) :
    bitExponent bits numerator denominator ≤ exponent := by
  have up := (zpow_lt_zpow_iff_right₀ one_lt_two).mp
    ((bitExponent_bounds bits above positive).1.trans_lt most)
  omega

end Grid

namespace Binary64

/-- The step below the number is half as long as the one above. -/
def HasShortStep (magnitude : Scaled) : Prop :=
  magnitude.significand = 2 ^ 52 ∧ leastExponent < magnitude.exponent

instance (magnitude : Scaled) : Decidable (HasShortStep magnitude) :=
  inferInstanceAs (Decidable (_ ∧ _))

/-- The end of the rounding interval below the number. -/
def lowest (magnitude : Scaled) : ℚ :=
  (magnitude.significand - if HasShortStep magnitude then 1 / 4 else 1 / 2) * 2 ^ magnitude.exponent

/-- The end of the rounding interval above the number. -/
def highest (magnitude : Scaled) : ℚ :=
  (magnitude.significand + 1 / 2) * 2 ^ magnitude.exponent

/-- The quotient lies in the rounding interval of the number. -/
def Attracts (magnitude : Scaled) (quotient : ℚ) : Prop :=
  if magnitude.significand % 2 = 0 then lowest magnitude ≤ quotient ∧ quotient ≤ highest magnitude
  else lowest magnitude < quotient ∧ quotient < highest magnitude

section Attracts

variable {magnitude : Scaled} {quotient : ℚ}

theorem half_step_le_lowest (magnitude : Scaled) :
    (magnitude.significand - 1 / 2) * 2 ^ magnitude.exponent ≤ lowest magnitude := by
  apply mul_le_mul_of_nonneg_right _ (by positivity)
  split_ifs
  · linarith
  · exact le_rfl

theorem Attracts.lowest_le (attracts : Attracts magnitude quotient) :
    lowest magnitude ≤ quotient := by
  unfold Attracts at attracts
  split_ifs at attracts
  · exact attracts.1
  · exact attracts.1.le

theorem Attracts.le_highest (attracts : Attracts magnitude quotient) :
    quotient ≤ highest magnitude := by
  unfold Attracts at attracts
  split_ifs at attracts
  · exact attracts.2
  · exact attracts.2.le

theorem Attracts.pos (attracts : Attracts magnitude quotient)
    (nonzero : 0 < magnitude.significand) : 0 < quotient := by
  have one : (1 : ℚ) ≤ magnitude.significand := Nat.one_le_cast.mpr nonzero
  refine lt_of_lt_of_le ?_ ((half_step_le_lowest magnitude).trans attracts.lowest_le)
  exact mul_pos (by linarith) (by positivity)

/-- The quotient is at most half a step away. -/
theorem Attracts.abs_sub_le (attracts : Attracts magnitude quotient) :
    |quotient - magnitude.value| ≤ 2 ^ magnitude.exponent / 2 := by
  have below := (half_step_le_lowest magnitude).trans attracts.lowest_le
  have above := attracts.le_highest
  rw [highest] at above
  rw [Scaled.value, abs_le]
  constructor
  · linarith
  · linarith

/-- An odd significand loses the quotients that are half a step away. -/
theorem Attracts.even_of_abs_sub_eq (attracts : Attracts magnitude quotient)
    (tie : |quotient - magnitude.value| = 2 ^ magnitude.exponent / 2) :
    magnitude.significand % 2 = 0 := by
  by_contra odd
  rw [Attracts, if_neg odd] at attracts
  have below := (half_step_le_lowest magnitude).trans_lt attracts.1
  have above := attracts.2
  rw [highest] at above
  refine tie.not_lt ?_
  rw [Scaled.value, abs_lt]
  constructor
  · linarith
  · linarith

end Attracts

section Rounding

variable {magnitude : Scaled} {numerator denominator : Nat}

/-- On the grid of the number, the quotient is rounded to the significand. -/
theorem nearestEven_shifted (positive : 0 < denominator)
    (attracts : Attracts magnitude (numerator / denominator)) :
    nearestEven (shifted numerator denominator magnitude.exponent).1
      (shifted numerator denominator magnitude.exponent).2 = magnitude.significand := by
  have step : (0 : ℚ) < 2 ^ magnitude.exponent := by positivity
  have distance : (numerator / denominator / 2 ^ magnitude.exponent : ℚ) - magnitude.significand =
      (numerator / denominator - magnitude.value) / 2 ^ magnitude.exponent := by
    rw [Scaled.value]
    field_simp
  apply nearestEven_eq (shifted_pos positive)
  · rw [shifted_quotient, distance, abs_div, abs_of_pos step, div_le_iff₀ step]
    linarith [attracts.abs_sub_le]
  · rw [shifted_quotient, distance, abs_div, abs_of_pos step, div_eq_iff step.ne']
    intro tie
    exact attracts.even_of_abs_sub_eq (by linarith)

theorem roundQuotient_of_gridExponent (above : 0 < numerator) (positive : 0 < denominator)
    (attracts : Attracts magnitude (numerator / denominator))
    (fits : magnitude.significand < 2 ^ precision)
    (grid : gridExponent precision (some leastExponent) numerator denominator =
      magnitude.exponent) :
    roundQuotient precision (some leastExponent) numerator denominator = magnitude := by
  have point : gridPoint precision (some leastExponent) numerator denominator =
      magnitude.significand := by
    rw [gridPoint, grid, nearestEven_shifted positive attracts]
  rw [roundQuotient_of_pos _ _ above, point, grid, if_neg fits.ne]

/-- Below a power of two the grid is finer; the last quarter of a step is still rounded to it. -/
theorem roundQuotient_of_short (above : 0 < numerator) (positive : 0 < denominator)
    (attracts : Attracts magnitude (numerator / denominator)) (short : HasShortStep magnitude)
    (below : (numerator / denominator : ℚ) < 2 ^ (magnitude.exponent + 52)) :
    roundQuotient precision (some leastExponent) numerator denominator = magnitude := by
  rcases short with ⟨power, exponent⟩
  have step : (0 : ℚ) < 2 ^ (magnitude.exponent - 1) := by positivity
  have least : (2 ^ 53 - 1 / 2) * 2 ^ (magnitude.exponent - 1) ≤
      (numerator / denominator : ℚ) := by
    refine Eq.trans_le ?_ attracts.lowest_le
    rw [lowest, if_pos ⟨power, exponent⟩, power, zpow_sub_one₀ two_ne_zero]
    push_cast
    ring
  have most : (numerator / denominator : ℚ) < 2 ^ 53 * 2 ^ (magnitude.exponent - 1) := by
    refine below.trans_eq ?_
    rw [← zpow_natCast, ← zpow_add₀ two_ne_zero]
    congr 1
    push_cast
    ring
  have bits : bitExponent precision numerator denominator = magnitude.exponent - 1 := by
    apply bitExponent_eq precision above positive
    · refine le_trans ?_ least
      rw [precision, Nat.cast_ofNat, show magnitude.exponent - 1 + 53 - 1 =
        52 + (magnitude.exponent - 1) by ring, zpow_add₀ two_ne_zero]
      exact mul_le_mul_of_nonneg_right (by norm_num) step.le
    · refine most.trans_eq ?_
      rw [precision, ← zpow_natCast, ← zpow_add₀ two_ne_zero, add_comm]
  have grid : gridExponent precision (some leastExponent) numerator denominator =
      magnitude.exponent - 1 := by
    rw [gridExponent, bits]
    exact max_eq_left (by omega)
  have point : gridPoint precision (some leastExponent) numerator denominator = 2 ^ precision := by
    rw [gridPoint, grid]
    have near : |(numerator / denominator / 2 ^ (magnitude.exponent - 1) : ℚ) -
        (2 ^ precision : Nat)| ≤ 1 / 2 := by
      rw [precision, abs_le, le_sub_iff_add_le, sub_le_iff_le_add, le_div_iff₀ step,
        div_le_iff₀ step]
      push_cast
      constructor
      · linarith
      · linarith
    rw [← shifted_quotient] at near
    exact nearestEven_eq (shifted_pos positive) near fun _ => by decide
  rw [roundQuotient_of_pos _ _ above, point, if_pos rfl, grid, sub_add_cancel]
  cases magnitude
  cases power
  rfl

/-- A quotient in the rounding interval of a canonical number is rounded to it. -/
theorem roundQuotient_of_attracts {x : Binary64} (canonical : x.IsCanonical)
    (above : 0 < numerator) (positive : 0 < denominator)
    (attracts : Attracts x.magnitude (numerator / denominator)) :
    roundQuotient precision (some leastExponent) numerator denominator = x.magnitude := by
  have step : (0 : ℚ) < 2 ^ x.magnitude.exponent := by positivity
  have bounded := cast_le_of_lt_precision canonical.significand
  have most : (numerator / denominator : ℚ) < 2 ^ (x.magnitude.exponent + precision) := by
    rw [zpow_add₀ two_ne_zero, zpow_natCast, mul_comm, precision]
    exact attracts.le_highest.trans_lt (mul_lt_mul_of_pos_right (by linarith) step)
  rcases le_or_gt (2 ^ (x.magnitude.exponent + 52)) (numerator / denominator : ℚ) with full | less
  · apply roundQuotient_of_gridExponent above positive attracts canonical.significand
    have bits : bitExponent precision numerator denominator = x.magnitude.exponent := by
      apply bitExponent_eq precision above positive _ most
      rwa [precision, Nat.cast_ofNat, add_sub_assoc]
    rw [gridExponent, bits]
    exact max_eq_left canonical.least
  · rcases canonical.least.lt_or_eq with exponent | exponent
    -- Only the least full significand attracts quotients with fewer bits.
    · apply roundQuotient_of_short above positive attracts ⟨?_, exponent⟩ less
      have full := canonical.full.resolve_right exponent.ne'
      by_contra larger
      have more : 2 ^ 52 + 1 ≤ x.magnitude.significand := by omega
      have cast : (2 ^ 52 + 1 : ℚ) ≤ x.magnitude.significand := by exact_mod_cast more
      have reached : (2 : ℚ) ^ (x.magnitude.exponent + 52) ≤ numerator / denominator := by
        refine le_trans ?_ ((half_step_le_lowest _).trans attracts.lowest_le)
        rw [add_comm, zpow_add₀ two_ne_zero]
        exact mul_le_mul_of_nonneg_right (by norm_num; linarith) step.le
      linarith
    · apply roundQuotient_of_gridExponent above positive attracts canonical.significand
      rw [gridExponent, max_eq_right, exponent]
      exact (bitExponent_le precision above positive most).trans_eq exponent.symm

theorem ofQuotient?_of_attracts (negative : Bool) {x : Binary64} (canonical : x.IsCanonical)
    (nonzero : 0 < x.magnitude.significand) (positive : 0 < denominator)
    (attracts : Attracts x.magnitude (numerator / denominator)) :
    ofQuotient? negative numerator denominator = some ⟨negative, x.magnitude⟩ := by
  have above : 0 < numerator := by
    refine Nat.pos_of_ne_zero fun zero => (attracts.pos nonzero).ne' ?_
    rw [zero, Nat.cast_zero, zero_div]
  rw [ofQuotient?, roundQuotient_of_attracts canonical above positive attracts]
  exact if_pos canonical.exponent

end Rounding

/-! ## Operations with one rounding -/

section Operations

variable {x y z : Binary64}

theorem mul?_of_attracts (canonical : z.IsCanonical) (nonzero : 0 < z.magnitude.significand)
    (attracts : Attracts z.magnitude (x.absolute * y.absolute)) :
    x.mul? y = some ⟨x.negative != y.negative, z.magnitude⟩ := by
  rw [product_eq_div] at attracts
  exact ofQuotient?_of_attracts _ canonical nonzero
    (Nat.mul_pos x.magnitude.denominator_pos y.magnitude.denominator_pos) attracts

theorem div?_of_attracts (canonical : z.IsCanonical) (nonzero : 0 < z.magnitude.significand)
    (divisor : 0 < y.absolute) (attracts : Attracts z.magnitude (x.absolute / y.absolute)) :
    x.div? y = some ⟨x.negative != y.negative, z.magnitude⟩ := by
  rw [quotient_eq_div] at attracts
  exact ofQuotient?_of_attracts _ canonical nonzero
    (Nat.mul_pos x.magnitude.denominator_pos (numerator_pos divisor)) attracts

end Operations

/-! ## Quotients that need no rounding -/

/-- A quotient that has a significand and an exponent in the format is kept. -/
theorem value_roundQuotient_of_fits {numerator denominator significand : Nat} {exponent : Int}
    (above : 0 < numerator) (positive : 0 < denominator) (fits : significand < 2 ^ precision)
    (least : leastExponent ≤ exponent)
    (same : (numerator / denominator : ℚ) = significand * 2 ^ exponent) :
    (roundQuotient precision (some leastExponent) numerator denominator).value =
      numerator / denominator := by
  have bounded : (significand : ℚ) < 2 ^ precision := by exact_mod_cast fits
  have most : (numerator / denominator : ℚ) < 2 ^ (exponent + precision) := by
    rw [same, zpow_add₀ two_ne_zero, zpow_natCast, mul_comm]
    exact mul_lt_mul_of_pos_left bounded (by positivity)
  have finer : gridExponent precision (some leastExponent) numerator denominator ≤ exponent :=
    max_le (bitExponent_le precision above positive most) least
  rcases Int.exists_add_of_le finer with ⟨steps, split⟩
  -- On the grid of the quotient it is a whole number.
  have onGrid : (numerator / denominator : ℚ) = (significand * 2 ^ steps : Nat) *
      2 ^ gridExponent precision (some leastExponent) numerator denominator := by
    rw [same, split, zpow_add₀ two_ne_zero, zpow_natCast]
    push_cast
    ring
  have point : gridPoint precision (some leastExponent) numerator denominator =
      significand * 2 ^ steps := by
    have whole : (numerator / denominator /
        2 ^ gridExponent precision (some leastExponent) numerator denominator : ℚ) -
          (significand * 2 ^ steps : Nat) = 0 := by
      rw [onGrid, mul_div_cancel_right₀ _ (by positivity), sub_self]
    rw [← shifted_quotient] at whole
    apply nearestEven_eq (shifted_pos positive)
    · rw [whole, abs_zero]
      norm_num
    · rw [whole, abs_zero]
      norm_num
  rw [value_roundQuotient precision (some leastExponent) (by decide) above, point, ← onGrid]

theorem ofNat?_of_fits {significand power : Nat} (above : 0 < significand)
    (fits : significand < 2 ^ precision) (bounded : (power : Int) ≤ largestExponent) :
    ∃ x, ofNat? (significand * 2 ^ power) = some x ∧ x.negative = false ∧
      x.absolute = significand * 2 ^ power := by
  have bound := cast_le_of_lt_precision fits
  have least : leastExponent ≤ (power : Int) := by simp only [leastExponent]; omega
  have same : ((significand * 2 ^ power : Nat) / (1 : Nat) : ℚ) =
      significand * 2 ^ (power : Int) := by
    rw [zpow_natCast]
    push_cast
    rw [div_one]
  have small : ((significand * 2 ^ power : Nat) / (1 : Nat) : ℚ) < overflow := by
    have steps : (2 : ℚ) ^ (power : Int) ≤ 2 ^ largestExponent :=
      zpow_le_zpow_right₀ one_le_two bounded
    rw [overflow, same]
    calc (significand : ℚ) * 2 ^ (power : Int) ≤ significand * 2 ^ largestExponent := by gcongr
      _ < (2 ^ 53 - 1 / 2) * 2 ^ largestExponent :=
          mul_lt_mul_of_pos_right (by linarith) (by positivity)
  refine ⟨_, if_pos (exponent_roundQuotient_le one_pos small), rfl, ?_⟩
  rw [absolute, value_roundQuotient_of_fits (Nat.mul_pos above (Nat.two_pow_pos power)) one_pos fits
    least same, same, zpow_natCast]

end Binary64

end TransactionLedger.Decimal
