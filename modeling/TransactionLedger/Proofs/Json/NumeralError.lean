import TransactionLedger.Proofs.Decimal.Drift
import TransactionLedger.Proofs.Decimal.Nearest
import TransactionLedger.Proofs.Json.NumeralValue

/-!
# How far the value of a numeral is off

A numeral with up to 15 digits and a power of ten up to 22 is read with a single rounding, as its
digits and the power of ten are numbers themselves. For others every step of the scaling rounds, and
the value misses what the numeral denotes by a few parts in `2^53`.
-/

namespace TransactionLedger.Json

open Decimal

namespace Numeral

/-- The digits of a numeral as one natural number. -/
def digits (numeral : Numeral) : Nat :=
  Text.naturalOf (numeral.whole ++ numeral.fraction.getD [])

/-- The power of ten at which the last digit stands. -/
def place (numeral : Numeral) : Int :=
  numeral.power - (numeral.fraction.getD []).length

theorem absolute_eq (numeral : Numeral) :
    numeral.absolute = numeral.digits * 10 ^ numeral.place := by
  rw [absolute, mantissa, place, zpow_sub₀ (by norm_num), zpow_natCast, digits]
  ring

/-- The significand of a numeral is scaled by the power of ten of its last digit. -/
theorem real?_eq_scale {numeral : Numeral} (bounded : |numeral.power| ≤ exponentLimit) :
    numeral.real? =
      (scale numeral.significand.1 (numeral.significand.2 + numeral.power)).map
        (·.withSign numeral.negative) := by
  cases exponent : numeral.exponent with
  | none => simp [real?, power, exponent, Option.map_eq_bind]
  | some written =>
      simp only [power, exponent, Option.elim_some] at bounded ⊢
      by_cases down : written.isDown = true
      · simp only [if_pos down, abs_neg, Nat.abs_cast, Nat.cast_le] at bounded ⊢
        simp [real?, exponent, down, not_lt.mpr bounded, sub_eq_add_neg, Option.map_eq_bind]
      · simp only [if_neg down, Nat.abs_cast, Nat.cast_le] at bounded ⊢
        simp [real?, exponent, down, not_lt.mpr bounded, Option.map_eq_bind]

/-! ## Digits that are dropped -/

theorem significand_of_digits_le {numeral : Numeral} (fits : numeral.digits ≤ limit) :
    numeral.significand = (numeral.digits, -((numeral.fraction.getD []).length : Int)) := by
  have short : Text.naturalOf numeral.whole ≤ limit := by
    refine le_trans ?_ fits
    rw [digits, Text.naturalOf_append]
    exact (Nat.le_mul_of_pos_right _ (Nat.pow_pos (by decide))).trans (Nat.le_add_right _ _)
  have all : gather 0 (numeral.whole ++ numeral.fraction.getD []) = (numeral.digits, []) := by
    have kept : gather 0 (numeral.whole ++ numeral.fraction.getD []) = _ :=
      gather_of_le (by simpa [digits] using fits)
    simpa [digits] using kept
  simp [significand_eq short, all]

/-- All digits are kept, or those that are kept are so many that the others hardly count. -/
theorem gather_cases (value : Nat) {digits : List Char}
    (allDigits : ∀ c ∈ digits, Text.isDigit c = true) :
    value * 10 ^ digits.length + Text.naturalOf digits =
        (gather value digits).1 * 10 ^ (gather value digits).2.length ∨
      limit < 10 * (gather value digits).1 + 10 ∧
        value * 10 ^ digits.length + Text.naturalOf digits <
          ((gather value digits).1 + 1) * 10 ^ (gather value digits).2.length := by
  induction digits generalizing value with
  | nil => exact .inl (by simp [gather])
  | cons c rest ih =>
      rcases List.forall_mem_cons.mp allDigits with ⟨digit, restDigits⟩
      simp only [gather]
      split_ifs with full
      · have one : Text.digitValue c < 10 := by
          have below := Text.naturalOf_lt (List.forall_mem_singleton.mpr digit)
          rwa [Text.naturalOf_cons, List.length_nil, Nat.pow_zero, Nat.mul_one] at below
        have less := Text.naturalOf_lt allDigits
        refine .inr ⟨by omega, ?_⟩
        rw [Nat.add_mul, Nat.one_mul]
        exact Nat.add_lt_add_left less _
      · have step : value * 10 ^ (c :: rest).length + Text.naturalOf (c :: rest) =
            (10 * value + Text.digitValue c) * 10 ^ rest.length + Text.naturalOf rest := by
          rw [Text.naturalOf_cons, List.length_cons, Nat.pow_succ]
          ring
        rw [step]
        exact ih _ restDigits

theorem gather_error {digits : List Char} (allDigits : ∀ c ∈ digits, Text.isDigit c = true) :
    |((gather 0 digits).1 * 10 ^ (gather 0 digits).2.length : ℚ) - Text.naturalOf digits| ≤
      Text.naturalOf digits / 2 ^ 60 := by
  have below : ((gather 0 digits).1 * 10 ^ (gather 0 digits).2.length : ℚ) ≤
      Text.naturalOf digits := by
    have bounds := (gather_bounds (Nat.zero_le limit) digits).2.2
    rw [Nat.zero_mul, Nat.zero_add] at bounds
    exact_mod_cast bounds
  have cases := gather_cases 0 allDigits
  rw [Nat.zero_mul, Nat.zero_add] at cases
  rw [abs_sub_comm, abs_of_nonneg (sub_nonneg.mpr below)]
  rcases cases with same | ⟨many, close⟩
  · have cast : (Text.naturalOf digits : ℚ) =
        (gather 0 digits).1 * 10 ^ (gather 0 digits).2.length := by
      exact_mod_cast same
    rw [← cast, sub_self]
    positivity
  · have unit : (0 : ℚ) < 10 ^ (gather 0 digits).2.length := by positivity
    have least : (2 ^ 60 : ℚ) ≤ (gather 0 digits).1 := by
      have whole : 2 ^ 60 ≤ (gather 0 digits).1 := by
        simp only [limit] at many
        omega
      exact_mod_cast whole
    have less : (Text.naturalOf digits : ℚ) <
        ((gather 0 digits).1 + 1) * 10 ^ (gather 0 digits).2.length := by
      exact_mod_cast close
    have scaled := mul_le_mul_of_nonneg_right least unit.le
    rw [le_div_iff₀ (by norm_num)]
    linarith

/-- What is scaled is what the numeral denotes, up to a small part of it. -/
theorem significand_error {numeral : Numeral} (short : Text.naturalOf numeral.whole ≤ limit)
    (allDigits : ∀ c ∈ numeral.whole ++ numeral.fraction.getD [], Text.isDigit c = true) :
    |(numeral.significand.1 * 10 ^ (numeral.significand.2 + numeral.power) : ℚ) -
        numeral.absolute| ≤ numeral.absolute / 2 ^ 60 := by
  have unit : (0 : ℚ) < 10 ^ numeral.place := by positivity
  have gathered : (numeral.significand.1 * 10 ^ (numeral.significand.2 + numeral.power) : ℚ) =
      (gather 0 (numeral.whole ++ numeral.fraction.getD [])).1 *
        10 ^ (gather 0 (numeral.whole ++ numeral.fraction.getD [])).2.length *
          10 ^ numeral.place := by
    rw [significand_eq short, mul_assoc, ← zpow_natCast, ← zpow_add₀ (by norm_num), place]
    congr 2
    ring
  have error := mul_le_mul_of_nonneg_right (gather_error allDigits) unit.le
  rwa [← abs_of_pos unit, ← abs_mul, abs_of_pos unit, sub_mul, div_mul_eq_mul_div, ← gathered,
    ← digits, ← absolute_eq] at error

/-! ## One rounding -/

/-- The digits and the power of ten of the numeral are numbers of the 64-bit format. -/
structure IsShort (numeral : Numeral) : Prop where
  digits : numeral.digits < 2 ^ 53
  place : |numeral.place| ≤ 22

theorem powerOfTen?_of_le_22 {power : Nat} (bounded : power ≤ 22) :
    ∃ x, powerOfTen? power = some x ∧ x.negative = false ∧ x.absolute = 10 ^ power := by
  have fits : 5 ^ power < 2 ^ Binary64.precision :=
    (Nat.pow_le_pow_right (by decide) bounded).trans_lt (by decide)
  have exponent : (power : Int) ≤ Binary64.largestExponent := by
    simp only [Binary64.largestExponent]
    omega
  rcases Binary64.ofNat?_of_fits (Nat.pow_pos (by decide)) fits exponent with
    ⟨x, rounded, positive, exact⟩
  refine ⟨x, ?_, positive, ?_⟩
  · rw [powerOfTen?, pow_eq, ← rounded, ← Nat.mul_pow]
  · rw [exact]
    push_cast
    rw [← mul_pow]
    norm_num

/-- A significand and a power of ten without an error are rounded once. -/
theorem scale_of_attracts {value : Nat} {power : Int} (above : 0 < value) (fits : value < 2 ^ 53)
    (bounded : |power| ≤ 22) {x : Binary64} (canonical : x.IsCanonical)
    (nonzero : 0 < x.magnitude.significand)
    (attracts : Binary64.Attracts x.magnitude (value * 10 ^ power)) :
    scale value power = some ⟨false, x.magnitude⟩ := by
  rcases abs_le.mp bounded with ⟨low, high⟩
  have exponent : ((0 : Nat) : Int) ≤ Binary64.largestExponent := by decide
  rcases Binary64.ofNat?_of_fits above fits exponent with ⟨significand, rounded, positive, exact⟩
  rw [pow_zero, mul_one] at rounded exact
  rw [scale, rounded]
  simp only [Option.bind_eq_bind, Option.bind_some]
  split_ifs with up most
  · rcases Int.eq_ofNat_of_zero_le up with ⟨power, rfl⟩
    have small : power ≤ 22 := by omega
    rcases powerOfTen?_of_le_22 small with ⟨ten, isTen, tenPositive, tenExact⟩
    rw [zpow_natCast, ← exact, ← tenExact] at attracts
    rw [Int.toNat_natCast, isTen, Option.bind_some,
      Binary64.mul?_of_attracts canonical nonzero attracts, positive, tenPositive]
    rfl
  · omega
  · omega
  · rcases Int.exists_eq_neg_ofNat (not_le.mp up).le with ⟨power, rfl⟩
    have small : power ≤ 22 := by omega
    rcases powerOfTen?_of_le_22 small with ⟨ten, isTen, tenPositive, tenExact⟩
    have divisor : 0 < ten.absolute := by
      rw [tenExact]
      positivity
    rw [zpow_neg, zpow_natCast, ← div_eq_mul_inv, ← exact, ← tenExact] at attracts
    rw [Int.natAbs_neg, Int.natAbs_natCast, scaleDown, if_pos (by omega), isTen]
    simp only [Option.bind_eq_bind, Option.bind_some]
    rw [Binary64.div?_of_attracts canonical nonzero divisor attracts, positive, tenPositive]
    rfl

/-- A short numeral is read as the number that what it denotes is rounded to. -/
theorem real?_of_attracts {numeral : Numeral} (short : numeral.IsShort)
    (power : |numeral.power| ≤ exponentLimit) {x : Binary64} (canonical : x.IsCanonical)
    (nonzero : 0 < x.magnitude.significand)
    (attracts : Binary64.Attracts x.magnitude numeral.absolute) :
    numeral.real? = some ⟨numeral.negative, x.magnitude⟩ := by
  have fits : numeral.digits ≤ limit := short.digits.le.trans (by decide)
  rw [absolute_eq] at attracts
  have above : 0 < numeral.digits := by
    refine Nat.pos_of_ne_zero fun zero => (attracts.pos nonzero).ne' ?_
    rw [zero, Nat.cast_zero, zero_mul]
  have place : (numeral.digits, -((numeral.fraction.getD []).length : Int)).2 + numeral.power =
      numeral.place := neg_add_eq_sub _ _
  rw [real?_eq_scale power, significand_of_digits_le fits, place,
    scale_of_attracts above short.digits short.place canonical nonzero attracts]
  rfl

/-! ## Several roundings -/

theorem near_ofNat? {value : Nat} (fits : value ≤ limit) {x : Binary64}
    (rounded : Binary64.ofNat? value = some x) : x.negative = false ∧ x.Near 1 0 value := by
  rcases ofNat?_of_le_limit fits with ⟨other, isOther, error⟩
  rcases Option.some.inj (rounded.symm.trans isOther) with rfl
  refine ⟨Binary64.negative_of_ofQuotient? rounded, ?_⟩
  simpa [Binary64.Near] using error

theorem near_powerOfTen? {power : Nat} (bounded : power ≤ 308) {ten : Binary64}
    (isTen : powerOfTen? power = some ten) : ten.negative = false ∧ ten.Near 1 0 (10 ^ power) := by
  rcases powerOfTen?_of_le bounded with ⟨other, isOther, error, -⟩
  rcases Option.some.inj (isTen.symm.trans isOther) with rfl
  refine ⟨Binary64.negative_of_ofQuotient? isTen, ?_⟩
  simpa [Binary64.Near] using error

theorem near_of_isZero {x : Binary64} {exact : ℚ} (near : x.Near 1 0 exact) (nonneg : 0 ≤ exact)
    (zero : x.isZero = true) : exact = 0 := by
  rw [← x.absolute_eq_zero_iff] at zero
  rw [Binary64.Near, zero, zero_sub, abs_neg, abs_of_nonneg nonneg] at near
  linarith

theorem near_scaleDown {x y : Binary64} {exact : ℚ} (near : x.Near 1 0 exact) (nonneg : 0 ≤ exact)
    {power : Nat} (bounded : power ≤ 616) (scaled : scaleDown x power = some y) :
    y.negative = x.negative ∧ y.Near (11 / 2) (3 / 5) (exact / 10 ^ power) := by
  have one (power : Nat) : (1 : ℚ) ≤ 10 ^ power := one_le_pow₀ (by norm_num)
  rw [scaleDown] at scaled
  split_ifs at scaled with single zero
  · rcases Option.bind_eq_some_iff.mp scaled with ⟨ten, isTen, divided⟩
    rcases near_powerOfTen? single isTen with ⟨tenSign, nearTen⟩
    refine ⟨?_, ?_⟩
    · rw [Binary64.negative_of_ofQuotient? divided, tenSign, Bool.bne_false]
    · have nearQuotient := near.div (1 / 2) nearTen (by norm_num) le_rfl nonneg (one power)
        divided (by norm_num)
      exact nearQuotient.mono (div_nonneg nonneg (by positivity)) (by norm_num) (by norm_num)
  · rw [near_of_isZero near nonneg zero, ← Option.some.inj scaled, zero_div]
    refine ⟨rfl, ?_⟩
    rw [← x.absolute_eq_zero_iff] at zero
    rw [Binary64.Near, zero, sub_zero, abs_zero]
    positivity
  · rcases Option.bind_eq_some_iff.mp scaled with ⟨ten, isTen, scaled⟩
    rcases Option.bind_eq_some_iff.mp scaled with ⟨next, divided, scaled⟩
    rcases near_powerOfTen? le_rfl isTen with ⟨tenSign, nearTen⟩
    have nearNext := near.div (1 / 2) nearTen (by norm_num) le_rfl nonneg (one 308) divided
      (by norm_num)
    rw [scaleDown, if_pos (by omega)] at scaled
    rcases Option.bind_eq_some_iff.mp scaled with ⟨rest, isRest, dividedAgain⟩
    rcases near_powerOfTen? (by omega) isRest with ⟨restSign, nearRest⟩
    have ten : (10 : ℚ) ≤ 10 ^ (power - 308) := le_self_pow₀ (by norm_num) (by omega)
    have split : exact / 10 ^ power = exact / 10 ^ 308 / 10 ^ (power - 308) := by
      rw [div_div, ← pow_add, Nat.add_sub_cancel' (by omega)]
    refine ⟨?_, ?_⟩
    · rw [Binary64.negative_of_ofQuotient? dividedAgain, restSign,
        Binary64.negative_of_ofQuotient? divided, tenSign, Bool.bne_false, Bool.bne_false]
    · have nearQuotient := nearNext.div (3 / 5) nearRest (by norm_num) (by norm_num)
        (div_nonneg nonneg (by positivity)) (one _) dividedAgain (by linarith)
      rw [split]
      exact nearQuotient.mono (by positivity) (by norm_num) le_rfl

theorem near_scale {value : Nat} {power : Int} {y : Binary64} (fits : value ≤ limit)
    (bounded : -616 ≤ power) (scaled : scale value power = some y) :
    y.negative = false ∧ y.Near (11 / 2) (3 / 5) (value * 10 ^ power) := by
  simp only [scale, Option.bind_eq_bind, Option.bind_eq_some_iff] at scaled
  rcases scaled with ⟨x, rounded, scaled⟩
  rcases near_ofNat? fits rounded with ⟨sign, near⟩
  have nonneg : (0 : ℚ) ≤ value := Nat.cast_nonneg value
  split_ifs at scaled with up most zero
  · rcases Option.bind_eq_some_iff.mp scaled with ⟨ten, isTen, multiplied⟩
    rcases Int.eq_ofNat_of_zero_le up with ⟨power, rfl⟩
    rcases near_powerOfTen? (by omega) isTen with ⟨tenSign, nearTen⟩
    refine ⟨?_, ?_⟩
    · rw [Binary64.negative_of_ofQuotient? multiplied, sign, tenSign, bne_self_eq_false]
    · rw [zpow_natCast]
      exact (near.mul nearTen nonneg (by positivity) multiplied).mono
        (by positivity) (by norm_num) (by norm_num)
  · rw [near_of_isZero near nonneg zero, ← Option.some.inj scaled, zero_mul]
    refine ⟨sign, ?_⟩
    rw [← x.absolute_eq_zero_iff] at zero
    rw [Binary64.Near, zero, sub_zero, abs_zero]
    positivity
  · rcases Int.exists_eq_neg_ofNat (not_le.mp up).le with ⟨power, rfl⟩
    rw [Int.natAbs_neg, Int.natAbs_natCast] at scaled
    rcases near_scaleDown near nonneg (by omega) scaled with ⟨sameSign, nearScaled⟩
    refine ⟨sameSign.trans sign, ?_⟩
    rwa [zpow_neg, zpow_natCast, ← div_eq_mul_inv]

end Numeral

end TransactionLedger.Json
