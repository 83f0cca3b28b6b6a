import TransactionLedger.Proofs.Json.NumeralValue
import TransactionLedger.Proofs.Json.PrintedNumber

/-!
# Printed numbers can be read

What a printed number denotes is at most half a step further from zero than the number. So the
numeral of every number that a document can hold has a value: below the two largest numbers it is
within reach, and for these two it is computed. The numeral of an integer denotes the integer; that
of a number of the binary format may denote one of its neighbours.
-/

namespace TransactionLedger.Json

open Decimal

/-- Zeros around the digits of a numeral do not change what they denote, only where the point is. -/
theorem Numeral.mantissa_eq {numeral : Numeral} {digits : List Char} {front back : Nat}
    (spelled : numeral.whole ++ numeral.fraction.getD [] =
      List.replicate front '0' ++ digits ++ List.replicate back '0') :
    numeral.mantissa =
      Text.naturalOf digits * 10 ^ ((back : Int) - (numeral.fraction.getD []).length) := by
  rw [mantissa, spelled, zpow_sub₀ (by norm_num), zpow_natCast, zpow_natCast, mul_div_assoc']
  simp

namespace Number

/-- The number is printed as a numeral that has a value. -/
def Legible (number : Number) : Prop :=
  ∃ value, number.numeral.value? = some value

/-- The number is printed as a numeral that denotes it. -/
def Readable (number : Number) : Prop :=
  number.numeral.value? = some number

theorem Readable.legible {number : Number} (readable : number.Readable) : number.Legible :=
  ⟨number, readable⟩

/-- The integers that a document can hold are read back. -/
theorem readable_integer {value : Int} (inside : IsInteger value) : (integer value).Readable := by
  rcases inside with ⟨least, most⟩
  cases value with
  | ofNat n =>
      have bound : n ≤ Numeral.limit := by
        have value : Int.ofNat n = (n : Int) := rfl
        simp only [Numeral.limit]
        omega
      simp [Readable, numeral, Numeral.value?, Numeral.isWhole, bound]
  | negSucc n =>
      have bound : n + 1 ≤ 0x8000000000000000 := by omega
      have value : Int.negSucc n = -((n + 1 : Nat) : Int) := rfl
      simp only [Readable, numeral, Numeral.value?, Numeral.isWhole, Text.naturalOf_decimal]
      rw [if_neg (by simp), if_pos ⟨rfl, trivial, Nat.succ_pos n, bound⟩, value]

/-! ## What a printed number denotes -/

section Denotes

variable (negative : Bool) {digits : List Char} (leading : Int)

theorem absolute_positionalNumeral :
    (positionalNumeral negative digits leading).absolute =
      Text.naturalOf digits * 10 ^ (leading + 1 - digits.length) := by
  by_cases small : leading < 0
  · have spelled : (positionalNumeral negative digits leading).whole ++
        (positionalNumeral negative digits leading).fraction.getD [] =
        List.replicate ((-leading - 1).toNat + 1) '0' ++ digits ++ List.replicate 0 '0' := by
      simp [positionalNumeral, small, List.replicate_succ]
    rw [Numeral.absolute, Numeral.mantissa_eq spelled]
    simp only [Numeral.power, positionalNumeral, if_pos small, Option.elim_none, zpow_zero, mul_one,
      Option.getD_some, List.length_append, List.length_replicate]
    congr 2
    omega
  -- The point stands between the digits, or behind the zeros that fill up the whole part.
  · rcases Nat.lt_or_ge (leading.toNat + 1) digits.length with longer | fits
    · have some : digits.drop (leading.toNat + 1) ≠ [] := by simpa using longer
      have spelled : (positionalNumeral negative digits leading).whole ++
          (positionalNumeral negative digits leading).fraction.getD [] =
          List.replicate 0 '0' ++ digits ++ List.replicate 0 '0' := by
        simp [positionalNumeral, small, Numeral.orZero, some, Nat.sub_eq_zero_of_le longer.le]
      rw [Numeral.absolute, Numeral.mantissa_eq spelled]
      simp only [Numeral.power, positionalNumeral, if_neg small, Option.elim_none, zpow_zero,
        mul_one, Option.getD_some, Numeral.orZero, List.isEmpty_iff, if_neg some, List.length_drop]
      congr 2
      omega
    · have spelled : (positionalNumeral negative digits leading).whole ++
          (positionalNumeral negative digits leading).fraction.getD [] =
          List.replicate 0 '0' ++ digits ++
            List.replicate (leading.toNat + 1 - digits.length + 1) '0' := by
        simp [positionalNumeral, small, Numeral.orZero, List.drop_eq_nil_of_le fits,
          List.take_of_length_le fits, List.replicate_succ']
      rw [Numeral.absolute, Numeral.mantissa_eq spelled]
      simp only [Numeral.power, positionalNumeral, if_neg small, Option.elim_none, zpow_zero,
        mul_one, Option.getD_some, Numeral.orZero, List.drop_eq_nil_of_le fits, List.isEmpty_nil,
        if_true, List.length_singleton]
      congr 2
      omega

theorem power_exponentialNumeral : (exponentialNumeral negative digits leading).power = leading := by
  by_cases down : leading < 0
  · simp [Numeral.power, exponentialNumeral, Exponent.isDown, down, abs_of_neg down]
  · simp [Numeral.power, exponentialNumeral, Exponent.isDown, down, abs_of_nonneg (not_lt.mp down)]

theorem absolute_exponentialNumeral (nonempty : digits ≠ []) :
    (exponentialNumeral negative digits leading).absolute =
      Text.naturalOf digits * 10 ^ (leading + 1 - digits.length) := by
  have spelled : (exponentialNumeral negative digits leading).whole ++
      (exponentialNumeral negative digits leading).fraction.getD [] =
      List.replicate 0 '0' ++ digits ++ List.replicate 0 '0' := by
    cases digits with
    | nil => contradiction
    | cons first rest => cases rest <;> simp [exponentialNumeral]
  have ten : (10 : ℚ) ≠ 0 := by norm_num
  have behind : ((exponentialNumeral negative digits leading).fraction.getD []).length + 1 =
      digits.length := by
    cases digits with
    | nil => contradiction
    | cons first rest => cases rest <;> simp [exponentialNumeral]
  rw [Numeral.absolute, Numeral.mantissa_eq spelled, mul_assoc, ← zpow_add₀ ten,
    power_exponentialNumeral]
  congr 2
  omega

end Denotes

/-- Digits without the zeros at their end denote the same, with the first one at its power. -/
theorem value_of_trailingZeros {short : Digits} {kept : List Char} {count : Nat}
    (spelled : Text.decimal short.digits = kept ++ List.replicate count '0') :
    (Text.naturalOf kept * 10 ^
      (short.exponent + (Text.decimal short.digits).length - 1 + 1 - kept.length) : ℚ) =
      short.value := by
  have number := congrArg Text.naturalOf spelled
  rw [Text.naturalOf_decimal, Text.naturalOf_append, Text.naturalOf_replicate_zero,
    List.length_replicate, add_zero] at number
  have exponents : short.exponent + (Text.decimal short.digits).length - 1 + 1 - kept.length =
      count + short.exponent := by
    rw [spelled, List.length_append, List.length_replicate]
    push_cast
    ring
  rw [exponents, zpow_add₀ (by norm_num), zpow_natCast, Digits.value, number]
  push_cast
  ring

/-- The printed number denotes the shortest decimal. -/
theorem absolute_magnitudeNumeral (negative : Bool) (magnitude : Scaled) :
    (magnitudeNumeral negative magnitude).absolute =
      (shortest Binary64.precision Binary64.leastExponent magnitude).value := by
  rcases exists_trailingZeros
    (shortest Binary64.precision Binary64.leastExponent magnitude).digits with ⟨count, spelled⟩
  simp only [magnitudeNumeral]
  split_ifs
  · rw [absolute_positionalNumeral]
    exact value_of_trailingZeros spelled
  · have nonempty := (Numeral.isRun_of_isWholePart (isWholePart_withoutTrailingZeros
      (shortest Binary64.precision Binary64.leastExponent magnitude).digits)).1
    rw [absolute_exponentialNumeral negative _ nonempty]
    exact value_of_trailingZeros spelled

/-! ## Within reach -/

theorem length_whole_magnitudeNumeral (negative : Bool) (magnitude : Scaled) :
    (magnitudeNumeral negative magnitude).whole.length ≤ 16 := by
  simp only [magnitudeNumeral]
  split_ifs with positional
  · have most := positional.2
    simp only [positionalNumeral, largestPositional] at most ⊢
    split_ifs
    · exact (by decide : 1 ≤ 16)
    · simp only [List.length_append, List.length_take, List.length_replicate]
      omega
  · exact (List.length_take_le 1 _).trans (by decide)

theorem naturalOf_whole_le {numeral : Numeral} (wellFormed : numeral.WellFormed)
    (short : numeral.whole.length ≤ 16) : Text.naturalOf numeral.whole ≤ Numeral.limit := by
  have bounded := Text.naturalOf_lt (Numeral.isRun_of_isWholePart wellFormed.whole).2
  have power : 10 ^ numeral.whole.length ≤ 10 ^ 16 := Nat.pow_le_pow_right (by decide) short
  exact (bounded.le.trans power).trans (by decide)

/-- The first digit stands at the power of ten between the powers around the decimal. -/
theorem leading_bounds {short : Digits} (nonzero : short.digits ≠ 0) :
    (10 : ℚ) ^ (short.exponent + (Text.decimal short.digits).length - 1) ≤ short.value ∧
      short.value < 10 ^ (short.exponent + (Text.decimal short.digits).length) := by
  have some := List.length_pos_iff.mpr (Text.decimal_ne_nil short.digits)
  constructor
  · have digits : ((10 ^ ((Text.decimal short.digits).length - 1) : Nat) : ℚ) ≤ short.digits :=
      Nat.cast_le.mpr (Text.pow_length_decimal_le nonzero)
    calc (10 : ℚ) ^ (short.exponent + (Text.decimal short.digits).length - 1)
        = (10 ^ ((Text.decimal short.digits).length - 1) : Nat) * 10 ^ short.exponent := by
          rw [Nat.cast_pow, Nat.cast_ofNat, ← zpow_natCast, ← zpow_add₀ (by norm_num)]
          congr 1
          omega
      _ ≤ short.value := mul_le_mul_of_nonneg_right digits (by positivity)
  · have bounded : short.digits < 10 ^ (Text.decimal short.digits).length := by
      have less := Text.naturalOf_lt fun c => Text.isDigit_of_mem_decimal (n := short.digits)
      rwa [Text.naturalOf_decimal] at less
    have digits : (short.digits : ℚ) < 10 ^ (Text.decimal short.digits).length := by
      exact_mod_cast bounded
    rw [add_comm, zpow_add₀ (by norm_num), zpow_natCast]
    exact mul_lt_mul_of_pos_right digits (by positivity)

theorem power_magnitudeNumeral_cases (negative : Bool) {magnitude : Scaled}
    (positive : 0 < magnitude.significand) :
    (magnitudeNumeral negative magnitude).power = 0 ∨
      (10 : ℚ) ^ (magnitudeNumeral negative magnitude).power ≤
          (shortest Binary64.precision Binary64.leastExponent magnitude).value ∧
        (shortest Binary64.precision Binary64.leastExponent magnitude).value <
          10 ^ ((magnitudeNumeral negative magnitude).power + 1) := by
  simp only [magnitudeNumeral]
  split_ifs with positional
  · left
    simp only [positionalNumeral]
    split_ifs <;> rfl
  · right
    have nonzero : (shortest Binary64.precision Binary64.leastExponent magnitude).digits ≠ 0 := by
      intro zero
      rw [zero, Decimal.exponent_shortest positive zero] at positional
      exact positional (by decide)
    rw [power_exponentialNumeral, sub_add_cancel]
    exact leading_bounds nonzero

theorem power_magnitudeNumeral_le (negative : Bool) {magnitude : Scaled}
    (positive : 0 < magnitude.significand)
    (bounded : (shortest Binary64.precision Binary64.leastExponent magnitude).value < 10 ^ 309) :
    (magnitudeNumeral negative magnitude).power ≤ Numeral.exponentLimit := by
  simp only [Numeral.exponentLimit]
  rcases power_magnitudeNumeral_cases negative positive with zero | ⟨leading, -⟩
  · omega
  · have exponents := (zpow_lt_zpow_iff_right₀ (by norm_num : (1 : ℚ) < 10)).mp
      (leading.trans_lt (bounded.trans_eq (zpow_natCast 10 309).symm))
    omega

/-- Half a step above a number other than the two largest ones is within reach. -/
theorem half_step_le_reach {x : Binary64} (finite : x.IsFinite)
    (smaller : x.magnitude.exponent = Binary64.largestExponent →
      x.magnitude.significand < 2 ^ 53 - 2) :
    ((x.magnitude.significand + 1 / 2) * 2 ^ x.magnitude.exponent : ℚ) ≤ Numeral.reach := by
  rcases finite with ⟨significand, exponent⟩
  rw [Numeral.reach]
  rcases exponent.lt_or_eq with less | same
  · have bounded := Binary64.cast_le_of_lt_precision significand
    have steps : (2 : ℚ) ^ (x.magnitude.exponent + 1) ≤ 2 ^ Binary64.largestExponent :=
      zpow_le_zpow_right₀ one_le_two (Int.add_one_le_of_lt less)
    rw [zpow_add_one₀ two_ne_zero] at steps
    calc ((x.magnitude.significand + 1 / 2) * 2 ^ x.magnitude.exponent : ℚ)
        ≤ (2 ^ 53 - 1 / 2) * 2 ^ x.magnitude.exponent :=
          mul_le_mul_of_nonneg_right (by linarith) (by positivity)
      _ ≤ (2 ^ 53 - 5 / 2) * (2 ^ x.magnitude.exponent * 2) := by
          have nonneg : (0 : ℚ) ≤ 2 ^ x.magnitude.exponent := by positivity
          linarith
      _ ≤ (2 ^ 53 - 5 / 2) * 2 ^ Binary64.largestExponent :=
          mul_le_mul_of_nonneg_left steps (by norm_num)
  · have bounded : (x.magnitude.significand : ℚ) ≤ 2 ^ 53 - 3 := by
      have whole : x.magnitude.significand + 3 ≤ 2 ^ 53 := by have := smaller same; omega
      have cast : (x.magnitude.significand + 3 : ℚ) ≤ 2 ^ 53 := by exact_mod_cast whole
      linarith
    rw [same]
    exact mul_le_mul_of_nonneg_right (by linarith) (by positivity)

/-- The two largest numbers can be read, although what they are printed as is not within reach. -/
theorem legible_largest (negative : Bool) {significand : Nat} (large : 2 ^ 53 - 2 ≤ significand)
    (bounded : significand < 2 ^ 53) :
    (real ⟨negative, ⟨significand, Binary64.largestExponent⟩⟩).Legible := by
  have cases : significand = 2 ^ 53 - 2 ∨ significand = 2 ^ 53 - 1 := by omega
  rw [Legible, ← Option.isSome_iff_exists]
  rcases cases with rfl | rfl <;> cases negative <;> decide +kernel

theorem legible_real {x : Binary64} (finite : x.IsFinite) : (real x).Legible := by
  by_cases isZero : x.isZero = true
  · have nonneg : 0 ≤ Numeral.reach := mul_nonneg (by norm_num) (by positivity)
    have denotesZero : Text.naturalOf ['0', '0'] = 0 := rfl
    rw [Legible, numeral, if_pos isZero]
    exact Numeral.value?_of_le (Nat.zero_le _) (Int.natCast_nonneg _)
      (by simpa [Numeral.absolute, Numeral.mantissa, denotesZero] using nonneg)
  · have positive := significand_pos isZero
    by_cases smaller : x.magnitude.exponent = Binary64.largestExponent →
        x.magnitude.significand < 2 ^ 53 - 2
    · rw [Legible, numeral, if_neg isZero]
      have within : (magnitudeNumeral x.negative x.magnitude).absolute ≤ Numeral.reach := by
        rw [absolute_magnitudeNumeral]
        exact (value_shortest_le _ _ _).trans (half_step_le_reach finite smaller)
      have bounded := (absolute_magnitudeNumeral x.negative x.magnitude ▸ within).trans_lt
        Numeral.reach_lt
      exact Numeral.value?_of_le
        (naturalOf_whole_le (wellFormed_magnitudeNumeral x.negative positive)
          (length_whole_magnitudeNumeral x.negative x.magnitude))
        (power_magnitudeNumeral_le x.negative positive bounded) within
    · rcases Classical.not_imp.mp smaller with ⟨largest, large⟩
      have computed := legible_largest x.negative (not_lt.mp large) finite.significand
      rwa [← largest] at computed

/-- Every number that a document can hold can be read after it is printed. -/
theorem Valid.legible {number : Number} (valid : number.Valid) : number.Legible := by
  cases number with
  | integer value => exact (readable_integer valid).legible
  | real value => exact legible_real valid.toIsFinite

end Number

end TransactionLedger.Json
