import TransactionLedger.Json.Numeral
import TransactionLedger.Proofs.Decimal.Binary64
import TransactionLedger.Proofs.Text.Digits

/-!
# The values of numerals

A numeral is read with as many digits as fit 64 bits, and these are scaled by a power of ten with a
rounding in every step. What a numeral denotes may therefore be a little too close to the largest
number to be read; up to a bound a few steps below it every numeral has a value.
-/

namespace TransactionLedger.Json

open Decimal

namespace Numeral

/-- What the digits of a numeral denote, without the sign and the exponent. -/
def mantissa (numeral : Numeral) : ℚ :=
  Text.naturalOf (numeral.whole ++ numeral.fraction.getD []) /
    10 ^ (numeral.fraction.getD []).length

/-- The power of ten that the exponent of a numeral stands for. -/
def power (numeral : Numeral) : Int :=
  numeral.exponent.elim 0 fun written =>
    if written.isDown then -Text.naturalOf written.digits else Text.naturalOf written.digits

/-- The rational number that a numeral denotes, without the sign. -/
def absolute (numeral : Numeral) : ℚ :=
  numeral.mantissa * 10 ^ numeral.power

/-! ## Significant digits -/

theorem gather_bounds {value : Nat} (fits : value ≤ limit) (digits : List Char) :
    (gather value digits).1 ≤ limit ∧ (gather value digits).2.length ≤ digits.length ∧
      (gather value digits).1 * 10 ^ (gather value digits).2.length ≤
        value * 10 ^ digits.length + Text.naturalOf digits := by
  induction digits generalizing value with
  | nil => simpa [gather] using fits
  | cons c rest ih =>
      simp only [gather]
      split_ifs with full
      · exact ⟨fits, le_rfl, Nat.le_add_right _ _⟩
      · rcases ih (not_lt.mp full) with ⟨small, shorter, below⟩
        refine ⟨small, shorter.trans (Nat.le_succ _), below.trans_eq ?_⟩
        rw [Text.naturalOf_cons, List.length_cons, Nat.pow_succ]
        ring

theorem gather_of_le {value : Nat} {digits : List Char}
    (fits : value * 10 ^ digits.length + Text.naturalOf digits ≤ limit) :
    gather value digits = (value * 10 ^ digits.length + Text.naturalOf digits, []) := by
  induction digits generalizing value with
  | nil => simp [gather]
  | cons c rest ih =>
      have step : value * 10 ^ (c :: rest).length + Text.naturalOf (c :: rest) =
          (10 * value + Text.digitValue c) * 10 ^ rest.length + Text.naturalOf rest := by
        rw [Text.naturalOf_cons, List.length_cons, Nat.pow_succ]
        ring
      rw [step] at fits ⊢
      have next : 10 * value + Text.digitValue c ≤ limit :=
        (Nat.le_mul_of_pos_right _ (Nat.pow_pos (by decide))).trans
          ((Nat.le_add_right _ _).trans fits)
      rw [gather]
      simp only [if_neg (not_lt.mpr next), ih fits]

theorem gather_append {value gathered : Nat} {front : List Char}
    (all : gather value front = (gathered, [])) (back : List Char) :
    gather value (front ++ back) = gather gathered back := by
  induction front generalizing value with
  | nil => rw [← (Prod.mk.inj all).1, List.nil_append]
  | cons c rest ih =>
      simp only [List.cons_append, gather] at all ⊢
      split_ifs at all ⊢ with full
      · exact absurd (Prod.mk.inj all).2 (List.cons_ne_nil c rest)
      · exact ih all

/-- The digits behind the point are gathered like those before it. -/
theorem significand_eq {numeral : Numeral} (short : Text.naturalOf numeral.whole ≤ limit) :
    numeral.significand =
      ((gather 0 (numeral.whole ++ numeral.fraction.getD [])).1,
        (gather 0 (numeral.whole ++ numeral.fraction.getD [])).2.length -
          ((numeral.fraction.getD []).length : Int)) := by
  have whole : gather 0 numeral.whole = (Text.naturalOf numeral.whole, []) := by
    have kept : gather 0 numeral.whole = _ := gather_of_le (by simpa using short)
    simpa using kept
  rw [gather_append whole]
  cases fraction : numeral.fraction with
  | none => simp [significand, whole, fraction, gather]
  | some behind =>
      have fewer := (gather_bounds short behind).2.1
      simp only [significand, whole, fraction, Option.getD_some, Prod.mk.injEq, true_and,
        List.length_nil]
      omega

/-- The digits that are kept fit 64 bits and denote at most what all digits denote. -/
theorem significand_bounds {numeral : Numeral} (short : Text.naturalOf numeral.whole ≤ limit) :
    numeral.significand.1 ≤ limit ∧
      (numeral.significand.1 * 10 ^ numeral.significand.2 : ℚ) ≤ numeral.mantissa := by
  rcases gather_bounds (Nat.zero_le limit) (numeral.whole ++ numeral.fraction.getD []) with
    ⟨small, -, below⟩
  rw [Nat.zero_mul, Nat.zero_add] at below
  rw [significand_eq short]
  refine ⟨small, ?_⟩
  rw [mantissa, le_div_iff₀ (by positivity), mul_assoc, ← zpow_natCast, ← zpow_add₀ (by norm_num),
    sub_add_cancel, zpow_natCast]
  exact_mod_cast below

/-! ## Scaling -/

/-- Up to here what a numeral denotes is rounded to a number, although it is rounded three times. -/
def reach : ℚ :=
  (2 ^ 53 - 5 / 2) * 2 ^ Binary64.largestExponent

theorem two_pow_lt_overflow : (2 : ℚ) ^ 66 < Binary64.overflow :=
  calc (2 : ℚ) ^ 66 < (2 ^ 53 - 1 / 2) * 2 ^ (14 : Int) := by norm_num
    _ ≤ (2 ^ 53 - 1 / 2) * 2 ^ Binary64.largestExponent := by
        have steps : (2 : ℚ) ^ (14 : Int) ≤ 2 ^ Binary64.largestExponent :=
          zpow_le_zpow_right₀ one_le_two (by decide)
        exact mul_le_mul_of_nonneg_left steps (by norm_num)

theorem ten_pow_lt_overflow {power : Nat} (bounded : power ≤ 308) :
    (10 : ℚ) ^ power < Binary64.overflow := by
  have largest : ((10 ^ 308 : Nat) : ℚ) < ((2 ^ 53 - 1) * 2 ^ 971 : Nat) :=
    Nat.cast_lt.mpr (by decide +kernel)
  rw [Nat.cast_mul, Nat.cast_pow, Nat.cast_pow, Nat.cast_ofNat, Nat.cast_ofNat] at largest
  calc (10 : ℚ) ^ power ≤ 10 ^ 308 := pow_le_pow_right₀ (by norm_num) bounded
    _ < ((2 ^ 53 - 1 : Nat) : ℚ) * 2 ^ 971 := largest
    _ ≤ (2 ^ 53 - 1 / 2) * 2 ^ 971 := by
        gcongr
        norm_num
    _ = Binary64.overflow := by
        rw [Binary64.overflow, ← zpow_natCast]
        rfl

/-- The powers of ten are rounded by at most one part in `2^53`. -/
theorem powerOfTen?_of_le {power : Nat} (bounded : power ≤ 308) :
    ∃ x, powerOfTen? power = some x ∧ |x.absolute - 10 ^ power| ≤ 10 ^ power / 2 ^ 53 ∧
      10 ^ power / 2 ≤ x.absolute := by
  have large : (1 : ℚ) ≤ 10 ^ power := one_le_pow₀ (by norm_num)
  have below : ((10 ^ power : Nat) : ℚ) < Binary64.overflow := by
    exact_mod_cast ten_pow_lt_overflow bounded
  rcases Binary64.ofNat?_of_lt below with ⟨x, rounded, error⟩
  rw [Nat.cast_pow, Nat.cast_ofNat, Binary64.tolerance_of_one_le large] at error
  refine ⟨x, rounded, error, ?_⟩
  linarith [(abs_le.mp error).1]

theorem div?_powerOfTen {x : Binary64} {power : Nat} (bounded : power ≤ 308)
    (small : x.absolute ≤ 2 ^ 65) :
    ∃ ten y, powerOfTen? power = some ten ∧ x.div? ten = some y ∧
      (0 < power → y.absolute ≤ 2 ^ 65) := by
  rcases powerOfTen?_of_le bounded with ⟨ten, isTen, -, half⟩
  have large : (1 : ℚ) ≤ 10 ^ power := one_le_pow₀ (by norm_num)
  have positive : 0 < ten.absolute := by linarith
  have below : x.absolute / ten.absolute < Binary64.overflow := by
    refine lt_of_le_of_lt ?_ two_pow_lt_overflow
    rw [div_le_iff₀ positive]
    linarith
  rcases Binary64.div?_of_lt positive below with ⟨y, divided, missed⟩
  refine ⟨ten, y, isTen, divided, fun some => ?_⟩
  have larger : (10 : ℚ) ≤ 10 ^ power := le_self_pow₀ (by norm_num) some.ne'
  have quotient : x.absolute / ten.absolute ≤ 2 ^ 65 / 5 := by
    rw [div_le_iff₀ positive]
    linarith
  have tolerance := Binary64.tolerance_le (div_nonneg x.absolute_nonneg ten.absolute_nonneg)
  linarith [(abs_le.mp missed).2]

theorem scaleDown_of_le {x : Binary64} (power : Nat) (small : x.absolute ≤ 2 ^ 65) :
    ∃ y, scaleDown x power = some y := by
  -- Every division keeps the bound on the number.
  induction power using Nat.strongRecOn generalizing x with
  | ind power ih =>
      rw [scaleDown]
      split_ifs with single zero
      · rcases div?_powerOfTen single small with ⟨ten, y, isTen, divided, -⟩
        exact ⟨y, by simp [isTen, divided]⟩
      · exact ⟨x, rfl⟩
      · rcases div?_powerOfTen le_rfl small with ⟨ten, next, isTen, divided, nextSmall⟩
        rcases ih (power - 308) (by omega) (nextSmall (by decide)) with ⟨y, scaled⟩
        exact ⟨y, by simp [isTen, divided, scaled]⟩

/-- A significand that is scaled up stays a number as long as the exact product is within reach. -/
theorem mul?_powerOfTen {x : Binary64} {value power : Nat} (bounded : power ≤ 308)
    (error : |x.absolute - value| ≤ value / 2 ^ 53) (within : (value * 10 ^ power : ℚ) ≤ reach) :
    ∃ ten y, powerOfTen? power = some ten ∧ x.mul? ten = some y := by
  rcases powerOfTen?_of_le bounded with ⟨ten, isTen, tenError, -⟩
  -- Both factors and the product are rounded once.
  have growth : (1 + 1 / 2 ^ 53 : ℚ) * (1 + 1 / 2 ^ 53) * (2 ^ 53 - 5 / 2) < 2 ^ 53 - 1 / 2 := by
    norm_num
  have below : x.absolute * ten.absolute < Binary64.overflow :=
    calc x.absolute * ten.absolute
        ≤ (value * (1 + 1 / 2 ^ 53)) * (10 ^ power * (1 + 1 / 2 ^ 53)) := by
          have nonneg := ten.absolute_nonneg
          gcongr
          · linarith [(abs_le.mp error).2]
          · linarith [(abs_le.mp tenError).2]
      _ = (1 + 1 / 2 ^ 53) * (1 + 1 / 2 ^ 53) * (value * 10 ^ power) := by ring
      _ ≤ (1 + 1 / 2 ^ 53) * (1 + 1 / 2 ^ 53) * reach := by gcongr
      _ = (1 + 1 / 2 ^ 53) * (1 + 1 / 2 ^ 53) * (2 ^ 53 - 5 / 2) *
            2 ^ Binary64.largestExponent := by
          rw [reach]
          ring
      _ < Binary64.overflow := mul_lt_mul_of_pos_right growth (by positivity)
  rcases Binary64.mul?_of_lt below with ⟨y, multiplied, -⟩
  exact ⟨ten, y, isTen, multiplied⟩

theorem cast_le_of_le_limit {value : Nat} (fits : value ≤ limit) : (value : ℚ) ≤ 2 ^ 64 := by
  have bounded : value ≤ 2 ^ 64 := fits.trans (by decide)
  exact_mod_cast bounded

theorem ofNat?_of_le_limit {value : Nat} (fits : value ≤ limit) :
    ∃ x, Binary64.ofNat? value = some x ∧ |x.absolute - value| ≤ value / 2 ^ 53 := by
  rcases Nat.eq_zero_or_pos value with rfl | positive
  · exact ⟨.zero false, rfl, by simp [Binary64.absolute, Binary64.zero, Scaled.value]⟩
  · have cast := cast_le_of_le_limit fits
    have large : (1 : ℚ) ≤ value := by exact_mod_cast positive
    have below : (value : ℚ) < Binary64.overflow := by linarith [two_pow_lt_overflow]
    rcases Binary64.ofNat?_of_lt below with ⟨x, rounded, error⟩
    rw [Binary64.tolerance_of_one_le large] at error
    exact ⟨x, rounded, error⟩

theorem overflow_lt_ten_pow : Binary64.overflow < 10 ^ 309 := by
  have powers : ((2 ^ 1024 : Nat) : ℚ) < (10 ^ 309 : Nat) := Nat.cast_lt.mpr (by decide +kernel)
  rw [Nat.cast_pow, Nat.cast_pow, Nat.cast_ofNat, Nat.cast_ofNat] at powers
  calc Binary64.overflow < 2 ^ (1024 : Int) := Binary64.overflow_lt
    _ < 10 ^ 309 := by exact powers

theorem reach_lt : reach < 10 ^ 309 :=
  (mul_le_mul_of_nonneg_right (by norm_num) (by positivity)).trans_lt overflow_lt_ten_pow

/-- A significand is scaled to a number as long as the exact product is within reach. -/
theorem scale_of_le {value : Nat} {power : Int} (fits : value ≤ limit)
    (within : (value * 10 ^ power : ℚ) ≤ reach) : ∃ y, scale value power = some y := by
  rcases ofNat?_of_le_limit fits with ⟨x, rounded, error⟩
  have cast := cast_le_of_le_limit fits
  rw [scale, rounded]
  simp only [Option.bind_eq_bind, Option.bind_some]
  split_ifs with up most zero
  · rcases Int.eq_ofNat_of_zero_le up with ⟨power, rfl⟩
    rw [zpow_natCast] at within
    rcases mul?_powerOfTen (by omega) error within with ⟨ten, y, isTen, multiplied⟩
    exact ⟨y, by simp [isTen, multiplied]⟩
  · exact ⟨x, rfl⟩
  · have positive : 0 < value := by
      refine Nat.pos_of_ne_zero fun none => zero ?_
      subst none
      rw [← x.absolute_eq_zero_iff]
      simpa using error
    have large : (1 : ℚ) ≤ value := by exact_mod_cast positive
    have beyond : (10 : ℚ) ^ 309 ≤ 10 ^ power := by
      rw [← zpow_natCast]
      exact zpow_le_zpow_right₀ (by norm_num) (by omega)
    have reached : (10 : ℚ) ^ power ≤ reach :=
      (le_mul_of_one_le_left (by positivity) large).trans within
    exact absurd (beyond.trans reached) (not_le.mpr reach_lt)
  · exact scaleDown_of_le power.natAbs (by linarith [(abs_le.mp error).2])

/-- A numeral has a value as long as what it denotes is within reach. -/
theorem value?_of_le {numeral : Numeral} (short : Text.naturalOf numeral.whole ≤ limit)
    (bounded : numeral.power ≤ exponentLimit) (within : numeral.absolute ≤ reach) :
    ∃ value, numeral.value? = some value := by
  have isReal : ∃ x, numeral.real? = some x := by
    rcases significand_bounds short with ⟨fits, below⟩
    have scaled : (numeral.significand.1 * 10 ^ (numeral.significand.2 + numeral.power) : ℚ) ≤
        reach := by
      rw [zpow_add₀ (by norm_num), ← mul_assoc]
      exact (mul_le_mul_of_nonneg_right below (by positivity)).trans within
    rcases scale_of_le fits scaled with ⟨x, isScaled⟩
    cases exponent : numeral.exponent with
    | none =>
        simp only [power, exponent, Option.elim_none, add_zero] at isScaled
        exact ⟨x.withSign numeral.negative, by simp [real?, exponent, isScaled]⟩
    | some written =>
        simp only [power, exponent, Option.elim_some] at isScaled bounded
        by_cases down : written.isDown = true
        · simp only [if_pos down, ← sub_eq_add_neg] at isScaled
          by_cases huge : exponentLimit < Text.naturalOf written.digits
          · exact ⟨_, by simp [real?, exponent, huge, down]; rfl⟩
          · exact ⟨x.withSign numeral.negative, by simp [real?, exponent, huge, down, isScaled]⟩
        · simp only [if_neg down] at isScaled bounded
          have small : ¬ exponentLimit < Text.naturalOf written.digits := by omega
          exact ⟨x.withSign numeral.negative, by simp [real?, exponent, small, down, isScaled]⟩
  rcases isReal with ⟨x, isReal⟩
  simp only [value?]
  split_ifs
  · exact ⟨_, rfl⟩
  · exact ⟨_, rfl⟩
  · exact ⟨.real x, by rw [isReal, Option.map_some]⟩

/-! ## Values are canonical -/

theorem isCanonical_of_div?_powerOfTen {x ten y : Binary64} {power : Nat} (bounded : power ≤ 308)
    (isTen : powerOfTen? power = some ten) (divided : x.div? ten = some y) : y.IsCanonical := by
  rcases powerOfTen?_of_le bounded with ⟨other, isOther, -, half⟩
  rcases Option.some.inj (isTen.symm.trans isOther) with rfl
  exact Binary64.isCanonical_of_div? (lt_of_lt_of_le (by positivity) half) divided

theorem isCanonical_of_scaleDown {x y : Binary64} {power : Nat} (canonical : x.IsCanonical)
    (scaled : scaleDown x power = some y) : y.IsCanonical := by
  induction power using Nat.strongRecOn generalizing x with
  | ind power ih =>
      rw [scaleDown] at scaled
      split_ifs at scaled with single zero
      · simp only [Option.bind_eq_bind, Option.bind_eq_some_iff] at scaled
        rcases scaled with ⟨ten, isTen, divided⟩
        exact isCanonical_of_div?_powerOfTen single isTen divided
      · rwa [← Option.some.inj scaled]
      · simp only [Option.bind_eq_bind, Option.bind_eq_some_iff] at scaled
        rcases scaled with ⟨ten, isTen, next, divided, rest⟩
        exact ih (power - 308) (by omega) (isCanonical_of_div?_powerOfTen le_rfl isTen divided) rest

theorem isCanonical_of_scale {value : Nat} {power : Int} {y : Binary64}
    (scaled : scale value power = some y) : y.IsCanonical := by
  simp only [scale, Option.bind_eq_bind, Option.bind_eq_some_iff] at scaled
  rcases scaled with ⟨x, rounded, scaled⟩
  have canonical := Binary64.isCanonical_of_ofNat? rounded
  split_ifs at scaled
  · rcases Option.bind_eq_some_iff.mp scaled with ⟨ten, -, multiplied⟩
    exact Binary64.isCanonical_of_mul? multiplied
  · rwa [← Option.some.inj scaled]
  · exact isCanonical_of_scaleDown canonical scaled

theorem isCanonical_of_real? {numeral : Numeral} {x : Binary64}
    (isReal : numeral.real? = some x) : x.IsCanonical := by
  have signed {scaled : Option Binary64} (canonical : ∀ y, scaled = some y → y.IsCanonical)
      (withSign : (scaled.bind fun y => some (y.withSign numeral.negative)) = some x) :
      x.IsCanonical := by
    rcases Option.bind_eq_some_iff.mp withSign with ⟨y, isScaled, same⟩
    rcases Option.some.inj same with rfl
    rcases canonical y isScaled with ⟨finite, least, full⟩
    exact ⟨⟨finite.significand, finite.exponent⟩, least, full⟩
  simp only [real?, Option.bind_eq_bind, Option.pure_def] at isReal
  split at isReal
  · exact signed (fun y => isCanonical_of_scale) isReal
  · split_ifs at isReal
    · refine signed (fun y same => ?_) isReal
      rcases Option.some.inj same with rfl
      exact ⟨⟨by decide, by decide⟩, by decide, .inr rfl⟩
    · contradiction
    · exact signed (fun y => isCanonical_of_scale) isReal
    · exact signed (fun y => isCanonical_of_scale) isReal

end Numeral

/-- A number that a document can hold. -/
def Number.Valid : Number → Prop
  | .integer value => IsInteger value
  | .real value => value.IsCanonical

theorem Number.valid_of_value? {numeral : Numeral} {number : Number}
    (denotes : numeral.value? = some number) : number.Valid := by
  simp only [Numeral.value?] at denotes
  split_ifs at denotes with positive negative
  · rcases Option.some.inj denotes with rfl
    have bounded := positive.2.1
    simp only [Numeral.limit] at bounded
    exact ⟨by omega, by omega⟩
  · rcases Option.some.inj denotes with rfl
    exact ⟨by omega, by omega⟩
  · rcases Option.map_eq_some_iff.mp denotes with ⟨x, isReal, rfl⟩
    exact Numeral.isCanonical_of_real? isReal

end TransactionLedger.Json
