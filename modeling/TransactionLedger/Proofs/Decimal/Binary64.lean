import TransactionLedger.Decimal.Binary64
import TransactionLedger.Proofs.Decimal.Rounding

/-!
# Arithmetic in 64 bits

The result of an operation exists if the exact one lies below the midpoint behind the largest
number. It misses the exact one by at most one part in `2^53`, or by half of the least number.
-/

namespace TransactionLedger.Decimal.Binary64

/-- The rational number that a number stands for, without its sign. -/
def absolute (x : Binary64) : ℚ :=
  x.magnitude.value

/-- The midpoint behind the largest number, from where on quotients are rounded beyond it. -/
def overflow : ℚ :=
  (2 ^ 53 - 1 / 2) * 2 ^ largestExponent

/-- How far a quotient may be from the number that it is rounded to. -/
def tolerance (quotient : ℚ) : ℚ :=
  max (quotient / 2 ^ 53) (2 ^ leastExponent / 2)

/-- The significand and the exponent do not exceed their limits. -/
structure IsFinite (x : Binary64) : Prop where
  significand : x.magnitude.significand < 2 ^ precision
  exponent : x.magnitude.exponent ≤ largestExponent

/-- The form in which a number is held: the significand is full, or the exponent the least one. -/
structure IsCanonical (x : Binary64) : Prop extends IsFinite x where
  least : leastExponent ≤ x.magnitude.exponent
  full : 2 ^ 52 ≤ x.magnitude.significand ∨ x.magnitude.exponent = leastExponent

theorem cast_le_of_lt_precision {significand : Nat} (fits : significand < 2 ^ precision) :
    (significand : ℚ) ≤ 2 ^ 53 - 1 := by
  have whole : significand + 1 ≤ 2 ^ 53 := fits
  have cast : (significand + 1 : ℚ) ≤ 2 ^ 53 := by exact_mod_cast whole
  linarith

theorem absolute_nonneg (x : Binary64) : 0 ≤ x.absolute :=
  x.magnitude.value_nonneg

theorem absolute_eq_zero_iff (x : Binary64) : x.absolute = 0 ↔ x.isZero = true := by
  simp [absolute, Scaled.value, isZero, zpow_ne_zero]

theorem overflow_lt : overflow < 2 ^ (1024 : Int) := by
  have largest : (2 : ℚ) ^ (1024 : Int) = 2 ^ 53 * 2 ^ largestExponent := by
    rw [← zpow_natCast, ← zpow_add₀ two_ne_zero]
    rfl
  rw [overflow, largest]
  exact mul_lt_mul_of_pos_right (by norm_num) (by positivity)

theorem half_least_le : (2 : ℚ) ^ leastExponent / 2 ≤ 1 / 2 ^ 53 := by
  have least : (2 : ℚ) ^ leastExponent ≤ 2 ^ (-53 : Int) :=
    zpow_le_zpow_right₀ one_le_two (by decide)
  norm_num at least ⊢
  linarith

theorem tolerance_of_one_le {quotient : ℚ} (large : 1 ≤ quotient) :
    tolerance quotient = quotient / 2 ^ 53 :=
  max_eq_left (half_least_le.trans (by gcongr))

theorem tolerance_le {quotient : ℚ} (nonneg : 0 ≤ quotient) :
    tolerance quotient ≤ quotient + 1 := by
  have part : quotient / 2 ^ 53 ≤ quotient := div_le_self nonneg (by norm_num)
  have least := half_least_le
  exact max_le (by linarith) (by linarith)

/-! ## Rounding a quotient -/

section Quotient

variable {negative : Bool} {numerator denominator : Nat}

theorem gridExponent_le (above : 0 < numerator) (positive : 0 < denominator)
    (below : (numerator / denominator : ℚ) < overflow) :
    gridExponent precision (some leastExponent) numerator denominator ≤ largestExponent := by
  rcases gridExponent_cases precision (some leastExponent) above positive with fills | stopped
  · have bounded := fills.trans_lt (below.trans overflow_lt)
    have exponents := (zpow_lt_zpow_iff_right₀ one_lt_two).mp bounded
    simp only [precision, largestExponent] at exponents ⊢
    omega
  · rw [← Option.some.inj stopped]
    decide

theorem exponent_roundQuotient_le (positive : 0 < denominator)
    (below : (numerator / denominator : ℚ) < overflow) :
    (roundQuotient precision (some leastExponent) numerator denominator).exponent ≤
      largestExponent := by
  rcases Nat.eq_zero_or_pos numerator with rfl | above
  · exact (by decide : leastExponent ≤ largestExponent)
  · have bounded := gridExponent_le above positive below
    rw [roundQuotient_of_pos precision (some leastExponent) above]
    split_ifs with full
    -- On the last grid the significand does not reach the next power of two.
    · refine Int.add_one_le_of_lt (lt_of_le_of_ne bounded fun largest => ?_)
      have error :=
        (abs_le.mp (gridPoint_abs_sub_le precision (some leastExponent) numerator positive)).2
      have scaled : (numerator / denominator / 2 ^ largestExponent : ℚ) < 2 ^ 53 - 1 / 2 :=
        (div_lt_iff₀ (by positivity)).mpr below
      rw [largest, full, precision] at error
      push_cast at error
      linarith
    · exact bounded

theorem value_roundQuotient_abs_sub_le (positive : 0 < denominator) :
    |(roundQuotient precision (some leastExponent) numerator denominator).value -
        numerator / denominator| ≤ tolerance (numerator / denominator) := by
  rcases Nat.eq_zero_or_pos numerator with rfl | above
  · have zero : (roundQuotient precision (some leastExponent) 0 denominator).value = 0 := by
      simp [roundQuotient, Scaled.value]
    rw [zero]
    simp [tolerance]
  · refine (Decimal.value_roundQuotient_abs_sub_le precision (some leastExponent) (by decide) above
      positive).trans ?_
    rcases gridExponent_cases precision (some leastExponent) above positive with fills | stopped
    · refine le_max_of_le_left ?_
      rw [precision, Nat.cast_ofNat, add_sub_assoc, zpow_add₀ two_ne_zero] at fills
      norm_num at fills
      rw [precision]
      linarith
    · refine le_max_of_le_right ?_
      rw [← Option.some.inj stopped]

/-- A quotient below the midpoint behind the largest number is rounded to a number. -/
theorem ofQuotient?_of_lt (negative : Bool) (positive : 0 < denominator)
    (below : (numerator / denominator : ℚ) < overflow) :
    ∃ x, ofQuotient? negative numerator denominator = some x ∧
      |x.absolute - numerator / denominator| ≤ tolerance (numerator / denominator) := by
  have bounded := exponent_roundQuotient_le positive below
  refine ⟨⟨negative, roundQuotient precision (some leastExponent) numerator denominator⟩, ?_,
    value_roundQuotient_abs_sub_le positive⟩
  simp only [ofQuotient?, if_pos bounded]

/-- A significand that is not full stands on the least grid. -/
theorem full_roundQuotient (numerator : Nat) {denominator : Nat} (positive : 0 < denominator) :
    leastExponent ≤ (roundQuotient precision (some leastExponent) numerator denominator).exponent ∧
      (2 ^ 52 ≤ (roundQuotient precision (some leastExponent) numerator denominator).significand ∨
        (roundQuotient precision (some leastExponent) numerator denominator).exponent =
          leastExponent) := by
  rcases Nat.eq_zero_or_pos numerator with rfl | above
  · exact ⟨le_rfl, .inr rfl⟩
  · have least : leastExponent ≤
        gridExponent precision (some leastExponent) numerator denominator := le_max_right _ _
    simp only [roundQuotient_of_pos precision (some leastExponent) above]
    split_ifs with carries
    · exact ⟨least.trans (Int.le_add_one le_rfl), .inl le_rfl⟩
    · refine ⟨least, ?_⟩
      rcases gridExponent_cases precision (some leastExponent) above positive with fills | stopped
      · refine .inl (le_gridPoint positive ?_)
        rw [precision, Nat.cast_ofNat, add_sub_assoc, add_comm, zpow_add₀ two_ne_zero] at fills
        rw [le_div_iff₀ (by positivity)]
        exact_mod_cast fills
      · exact .inr (Option.some.inj stopped).symm

theorem isCanonical_of_ofQuotient? {x : Binary64} (positive : 0 < denominator)
    (rounded : ofQuotient? negative numerator denominator = some x) : x.IsCanonical := by
  simp only [ofQuotient?] at rounded
  split_ifs at rounded with bounded
  rw [← Option.some.inj rounded]
  rcases full_roundQuotient numerator positive with ⟨least, full⟩
  exact ⟨⟨significand_roundQuotient_lt precision (some leastExponent) (by decide) positive,
    bounded⟩, least, full⟩

end Quotient

/-! ## Operations -/

theorem ofNat?_of_lt {n : Nat} (below : (n : ℚ) < overflow) :
    ∃ x, ofNat? n = some x ∧ |x.absolute - n| ≤ tolerance n := by
  rw [← div_one (n : ℚ), ← Nat.cast_one] at below ⊢
  exact ofQuotient?_of_lt false one_pos below

theorem isCanonical_of_ofNat? {n : Nat} {x : Binary64} (rounded : ofNat? n = some x) :
    x.IsCanonical :=
  isCanonical_of_ofQuotient? one_pos rounded

section Operations

variable {x y : Binary64}

theorem product_eq_div (x y : Binary64) :
    x.absolute * y.absolute = ((x.magnitude.numerator * y.magnitude.numerator : Nat) : ℚ) /
      (x.magnitude.denominator * y.magnitude.denominator : Nat) := by
  rw [absolute, absolute, Scaled.value_eq_div, Scaled.value_eq_div, div_mul_div_comm]
  push_cast
  rfl

theorem mul?_of_lt (below : x.absolute * y.absolute < overflow) :
    ∃ z, x.mul? y = some z ∧
      |z.absolute - x.absolute * y.absolute| ≤ tolerance (x.absolute * y.absolute) := by
  have positive := Nat.mul_pos x.magnitude.denominator_pos y.magnitude.denominator_pos
  rw [product_eq_div] at below ⊢
  exact ofQuotient?_of_lt _ positive below

theorem isCanonical_of_mul? {z : Binary64} (multiplied : x.mul? y = some z) : z.IsCanonical :=
  isCanonical_of_ofQuotient?
    (Nat.mul_pos x.magnitude.denominator_pos y.magnitude.denominator_pos) multiplied

theorem numerator_pos (nonzero : 0 < y.absolute) : 0 < y.magnitude.numerator := by
  refine Nat.pos_of_ne_zero fun zero => nonzero.ne' ?_
  rw [absolute, Scaled.value_eq_div, zero, Nat.cast_zero, zero_div]

theorem quotient_eq_div (x y : Binary64) :
    x.absolute / y.absolute = ((x.magnitude.numerator * y.magnitude.denominator : Nat) : ℚ) /
      (x.magnitude.denominator * y.magnitude.numerator : Nat) := by
  rw [absolute, absolute, Scaled.value_eq_div, Scaled.value_eq_div, div_div_div_eq]
  push_cast
  rfl

theorem div?_of_lt (nonzero : 0 < y.absolute) (below : x.absolute / y.absolute < overflow) :
    ∃ z, x.div? y = some z ∧
      |z.absolute - x.absolute / y.absolute| ≤ tolerance (x.absolute / y.absolute) := by
  have positive := Nat.mul_pos x.magnitude.denominator_pos (numerator_pos nonzero)
  rw [quotient_eq_div] at below ⊢
  exact ofQuotient?_of_lt _ positive below

theorem isCanonical_of_div? {z : Binary64} (nonzero : 0 < y.absolute)
    (divided : x.div? y = some z) : z.IsCanonical :=
  isCanonical_of_ofQuotient? (Nat.mul_pos x.magnitude.denominator_pos (numerator_pos nonzero))
    divided

end Operations

end TransactionLedger.Decimal.Binary64
