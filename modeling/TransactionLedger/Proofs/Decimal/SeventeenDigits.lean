import TransactionLedger.Proofs.Decimal.Nearest
import TransactionLedger.Proofs.Decimal.Shortest

/-!
# Seventeen digits suffice

The grid of decimals with 17 digits is finer than the rounding interval of any number is wide, so
the shortest decimal of a number is found in its interval. Read without an error and rounded once,
it gives the number back.
-/

namespace TransactionLedger.Decimal

/-! ## The leading digit -/

section Leading

variable {numerator denominator : Nat}

theorem reachesPower_iff (positive : 0 < denominator) (exponent : Int) :
    reachesPower numerator denominator exponent = true ↔
      (10 : ℚ) ^ exponent ≤ numerator / denominator := by
  have divisor : (0 : ℚ) < denominator := Nat.cast_pos.mpr positive
  rw [reachesPower, decide_eq_true_eq, pow_eq, pow_eq, zpow_eq_div (by norm_num), le_div_iff₀ divisor,
    div_mul_eq_mul_div, div_le_iff₀ (by positivity), mul_comm denominator]
  exact_mod_cast Iff.rfl

/-- In the range of the numbers, the guess is not above the leading digit of a power of two. -/
theorem reachesPower_two_pow : ∀ step : Nat, step < 2106 →
    reachesPower (2 ^ ((step : Int) - 1077).toNat) (2 ^ (1077 - (step : Int)).toNat)
      (((step : Int) - 1076) * 30103 / 100000 - 1) = true := by
  decide +kernel

theorem ten_pow_guess_le {binary : Int} (least : -1076 ≤ binary) (most : binary < 1030) :
    (10 : ℚ) ^ (binary * 30103 / 100000 - 1) ≤ 2 ^ (binary - 1) := by
  have reached := reachesPower_two_pow (binary + 1076).toNat (by omega)
  rw [reachesPower_iff (Nat.two_pow_pos _), Int.toNat_of_nonneg (by omega),
    add_sub_cancel_right] at reached
  refine reached.trans_eq ?_
  rw [zpow_eq_div two_ne_zero]
  push_cast
  congr 2
  · congr 1
    omega
  · congr 1
    omega

theorem ten_pow_leadingExponent_le (above : 0 < numerator) (positive : 0 < denominator)
    (least : -1076 ≤ (numerator.log2 : Int) - denominator.log2)
    (most : (numerator.log2 : Int) - denominator.log2 < 1030) :
    (10 : ℚ) ^ leadingExponent numerator denominator ≤ numerator / denominator := by
  simp only [leadingExponent]
  split_ifs with two one
  · exact (reachesPower_iff positive _).mp two
  · exact (reachesPower_iff positive _).mp one
  · exact (ten_pow_guess_le least most).trans (two_pow_log2_le above positive)

end Leading

theorem log2_mul_two_pow_lt {n bits shift : Nat} (fits : n < 2 ^ bits) (positive : 0 < n * 2 ^ shift) :
    (n * 2 ^ shift).log2 < bits + shift := by
  rw [Nat.log2_lt positive.ne', Nat.pow_add]
  exact Nat.mul_lt_mul_of_pos_right fits (Nat.two_pow_pos shift)

/-! ## Neighbours in the interval -/

namespace Interval

variable {interval : Interval} {exponent : Int}

/-- An interval around the value that is wider than a step of the grid contains a neighbour. -/
theorem exists_best?_of_wide (positive : 0 < interval.denominator)
    (above : (interval.low / interval.denominator : ℚ) < interval.value / interval.denominator)
    (below : (interval.value / interval.denominator : ℚ) < interval.high / interval.denominator)
    (wide : (interval.low / interval.denominator : ℚ) + 10 ^ exponent <
      interval.high / interval.denominator) :
    ∃ candidate, interval.best? exponent = some candidate := by
  have scale : 0 < interval.denominator * 10 ^ exponent.toNat :=
    Nat.mul_pos positive (Nat.pow_pos (by decide))
  generalize neighbour : interval.value * 10 ^ (-exponent).toNat /
    (interval.denominator * 10 ^ exponent.toNat) = lower
  have lowerLe : (⟨lower, exponent⟩ : Digits).value ≤ interval.value / interval.denominator := by
    rw [← point_le_iff positive, mul_assoc, mul_comm (10 ^ _), ← neighbour]
    exact Nat.div_mul_le_self _ _
  have upperGt : (interval.value / interval.denominator : ℚ) <
      (⟨lower + 1, exponent⟩ : Digits).value := by
    rw [← not_le, ← point_le_iff positive, not_le, mul_assoc, mul_comm (10 ^ _),
      mul_comm (lower + 1), ← neighbour]
    exact Nat.lt_mul_div_succ _ scale
  have step : (⟨lower + 1, exponent⟩ : Digits).value =
      (⟨lower, exponent⟩ : Digits).value + 10 ^ exponent := by
    simp only [Digits.value]
    push_cast
    ring
  have hit : interval.holds ⟨lower, exponent⟩ = true ∨ interval.holds ⟨lower + 1, exponent⟩ = true := by
    rcases lt_or_ge (interval.low / interval.denominator : ℚ) (⟨lower, exponent⟩ : Digits).value
      with inside | outside
    · exact .inl (holds_of_lt positive inside (lowerLe.trans_lt below))
    · exact .inr (holds_of_lt positive (above.trans upperGt) (by linarith))
  simp only [best?, pow_eq, neighbour]
  rcases hit with lowerHolds | upperHolds
  · simp only [lowerHolds, Bool.true_and, if_true]
    split_ifs <;> exact ⟨_, rfl⟩
  · simp only [upperHolds, Bool.and_true, if_true]
    split_ifs <;> exact ⟨_, rfl⟩

end Interval

theorem holds_firstGrid {interval : Interval} {leading : Int} {counts : List Nat} {count : Nat}
    (inside : count ∈ counts) (found : ∃ candidate,
      interval.best? (leading + 1 - count) = some candidate) :
    interval.holds (firstGrid interval leading counts) = true := by
  induction counts with
  | nil => contradiction
  | cons first more ih =>
      simp only [firstGrid]
      cases best : interval.best? (leading + 1 - first) with
      | some candidate => exact Interval.holds_of_best? best
      | none =>
          apply ih
          rcases List.mem_cons.mp inside with rfl | later
          · rcases found with ⟨candidate, isBest⟩
            rw [best] at isBest
            contradiction
          · exact later

/-! ## The interval of a number -/

namespace Binary64

variable {magnitude : Scaled}

/-- The bounds of the interval are counted in quarters of a step. -/
theorem quarters_div (quarters : Nat) (magnitude : Scaled) :
    ((quarters * 2 ^ magnitude.exponent.toNat : Nat) : ℚ) / (4 * magnitude.denominator : Nat) =
      quarters / 4 * 2 ^ magnitude.exponent := by
  rw [Scaled.denominator, pow_eq, zpow_eq_div two_ne_zero]
  push_cast
  field_simp

theorem low_ofScaled (positive : 0 < magnitude.significand) :
    ((Interval.ofScaled precision leastExponent magnitude).low /
        (Interval.ofScaled precision leastExponent magnitude).denominator : ℚ) =
      lowest magnitude := by
  have low : (Interval.ofScaled precision leastExponent magnitude).low =
      (4 * magnitude.significand - if HasShortStep magnitude then 1 else 2) *
        2 ^ magnitude.exponent.toNat := rfl
  rw [low, Interval.ofScaled, quarters_div, lowest]
  split_ifs
  · rw [Nat.cast_sub (by omega)]
    push_cast
    ring
  · rw [Nat.cast_sub (by omega)]
    push_cast
    ring

theorem value_ofScaled (magnitude : Scaled) :
    ((Interval.ofScaled precision leastExponent magnitude).value /
        (Interval.ofScaled precision leastExponent magnitude).denominator : ℚ) =
      magnitude.value := by
  simp only [Interval.ofScaled, pow_eq, quarters_div, Scaled.value]
  push_cast
  ring

theorem high_ofScaled (magnitude : Scaled) :
    ((Interval.ofScaled precision leastExponent magnitude).high /
        (Interval.ofScaled precision leastExponent magnitude).denominator : ℚ) =
      highest magnitude := by
  simp only [Interval.ofScaled, pow_eq, quarters_div, highest]
  push_cast
  ring

theorem denominator_ofScaled_pos (magnitude : Scaled) :
    0 < (Interval.ofScaled precision leastExponent magnitude).denominator :=
  Nat.mul_pos (by decide) magnitude.denominator_pos

theorem holds_ofScaled_iff (positive : 0 < magnitude.significand) {candidate : Digits} :
    (Interval.ofScaled precision leastExponent magnitude).holds candidate = true ↔
      Attracts magnitude candidate.value := by
  rw [Interval.holds_iff (denominator_ofScaled_pos magnitude), low_ofScaled positive,
    high_ofScaled]
  simp only [Interval.ofScaled, beq_iff_eq]
  rfl

/-! ## The shortest decimal -/

/-- With 17 digits, a step of the grid is shorter than the interval. -/
theorem lowest_add_step_lt {x : Binary64} (canonical : x.IsCanonical)
    {leading : Int} (reached : (10 : ℚ) ^ leading ≤ x.magnitude.value) :
    lowest x.magnitude + 10 ^ (leading + 1 - 17) < highest x.magnitude := by
  have unit : (0 : ℚ) < 2 ^ x.magnitude.exponent := by positivity
  have fits := cast_le_of_lt_precision canonical.significand
  have step : (10 : ℚ) ^ (leading + 1 - 17) ≤
      x.magnitude.significand / 10 ^ 16 * 2 ^ x.magnitude.exponent := by
    rw [show leading + 1 - 17 = leading - (16 : Nat) by omega, zpow_sub₀ (by norm_num),
      zpow_natCast, div_mul_eq_mul_div]
    exact div_le_div_of_nonneg_right reached (by norm_num)
  rw [lowest, highest]
  have gap : (x.magnitude.significand - (if HasShortStep x.magnitude then 1 / 4 else 1 / 2) +
      x.magnitude.significand / 10 ^ 16 : ℚ) < x.magnitude.significand + 1 / 2 := by
    split_ifs with short
    · rw [short.1]
      norm_num
    · linarith
  linarith [mul_lt_mul_of_pos_right gap unit]

theorem ten_pow_leadingExponent_le_value {x : Binary64} (canonical : x.IsCanonical)
    (positive : 0 < x.magnitude.significand) :
    (10 : ℚ) ^ leadingExponent (Interval.ofScaled precision leastExponent x.magnitude).value
        (Interval.ofScaled precision leastExponent x.magnitude).denominator ≤
      x.magnitude.value := by
  have significand : x.magnitude.significand < 2 ^ 53 := canonical.significand
  have exponent : x.magnitude.exponent ≤ 971 := canonical.exponent
  have least : -1074 ≤ x.magnitude.exponent := canonical.least
  have above : 0 < (Interval.ofScaled precision leastExponent x.magnitude).value :=
    Nat.mul_pos (by omega) (Nat.two_pow_pos _)
  have most : (Interval.ofScaled precision leastExponent x.magnitude).value.log2 <
      55 + x.magnitude.exponent.toNat :=
    log2_mul_two_pow_lt (by omega) above
  have divisor : (Interval.ofScaled precision leastExponent x.magnitude).denominator.log2 <
      3 + (-x.magnitude.exponent).toNat :=
    log2_mul_two_pow_lt (by decide) (denominator_ofScaled_pos _)
  rw [← value_ofScaled]
  apply ten_pow_leadingExponent_le above (denominator_ofScaled_pos _)
  · omega
  · omega

/-- The shortest decimal is rounded to the number. -/
theorem attracts_shortest {x : Binary64} (canonical : x.IsCanonical)
    (positive : 0 < x.magnitude.significand) :
    Attracts x.magnitude (shortest precision leastExponent x.magnitude).value := by
  have unit : (0 : ℚ) < 2 ^ x.magnitude.exponent := by positivity
  rw [← holds_ofScaled_iff positive]
  have last : 17 ∈ [1, 2, 3, 4, 5, 6, 7, 8, 9, 10, 11, 12, 13, 14, 15, 16, 17] := by decide
  refine holds_firstGrid last ?_
  apply Interval.exists_best?_of_wide (denominator_ofScaled_pos x.magnitude)
  · rw [low_ofScaled positive, value_ofScaled, lowest, Scaled.value]
    apply mul_lt_mul_of_pos_right _ unit
    split_ifs <;> linarith
  · rw [high_ofScaled, value_ofScaled, highest, Scaled.value]
    exact mul_lt_mul_of_pos_right (by linarith) unit
  · rw [low_ofScaled positive, high_ofScaled]
    exact lowest_add_step_lt canonical (ten_pow_leadingExponent_le_value canonical positive)

theorem shortest_abs_sub_le {x : Binary64} (canonical : x.IsCanonical)
    (positive : 0 < x.magnitude.significand) :
    |(shortest precision leastExponent x.magnitude).value - x.absolute| ≤
      2 ^ x.magnitude.exponent / 2 :=
  (attracts_shortest canonical positive).abs_sub_le

end Binary64

end TransactionLedger.Decimal
