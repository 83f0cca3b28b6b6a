import TransactionLedger.Proofs.Decimal.SeventeenDigits
import TransactionLedger.Proofs.Json.LegibleNumber
import TransactionLedger.Proofs.Json.NumeralError
import TransactionLedger.Proofs.Json.Roundtrip

/-!
# Printed numbers that are read again

The text of a number denotes a decimal from its rounding interval. If the text is short, a single
rounding gives the number back. If it is long, several roundings may lead to a neighbour, which has
the same sign and is less than seven steps away.
-/

namespace TransactionLedger.Json

open Decimal

/-! ## The numeral of a number -/

section Printed

variable {x : Binary64}

theorem Numeral.WellFormed.all_digits {numeral : Numeral} (wellFormed : numeral.WellFormed) :
    ∀ c ∈ numeral.whole ++ numeral.fraction.getD [], Text.isDigit c = true := by
  intro c inside
  rcases List.mem_append.mp inside with whole | behind
  · exact (isRun_of_isWholePart wellFormed.whole).2 c whole
  · cases fraction : numeral.fraction with
    | none => simp [fraction] at behind
    | some digits =>
        rw [fraction, Option.getD_some] at behind
        exact (wellFormed.fraction digits fraction).2 c behind

namespace Number

theorem value?_magnitudeNumeral (negative : Bool) (magnitude : Scaled) :
    (magnitudeNumeral negative magnitude).value? =
      (magnitudeNumeral negative magnitude).real?.map .real := by
  have parts : (magnitudeNumeral negative magnitude).isWhole = false := by
    simp only [magnitudeNumeral, positionalNumeral, exponentialNumeral]
    split_ifs <;> rfl
  simp [Numeral.value?, parts]

theorem ten_pow_le_shortest (canonical : x.IsCanonical) (nonzero : 0 < x.magnitude.significand) :
    (10 : ℚ) ^ (-324 : Int) ≤
      (shortest Binary64.precision Binary64.leastExponent x.magnitude).value := by
  have one : (1 : ℚ) ≤ x.magnitude.significand := Nat.one_le_cast.mpr nonzero
  have unit : (0 : ℚ) < 2 ^ x.magnitude.exponent := by positivity
  have least : (2 : ℚ) ^ Binary64.leastExponent ≤ 2 ^ x.magnitude.exponent :=
    zpow_le_zpow_right₀ one_le_two canonical.least
  have powers : ((2 ^ 1075 : Nat) : ℚ) ≤ (10 ^ 324 : Nat) := Nat.cast_le.mpr (by decide +kernel)
  rw [Nat.cast_pow, Nat.cast_pow, Nat.cast_ofNat, Nat.cast_ofNat] at powers
  calc (10 : ℚ) ^ (-324 : Int) ≤ 2 ^ (-1075 : Int) := by
        rw [zpow_neg, zpow_neg]
        exact inv_anti₀ (by positivity) powers
    _ = 1 / 2 * 2 ^ Binary64.leastExponent := by
        rw [Binary64.leastExponent, show (-1075 : Int) = -1 + -1074 by rfl,
          zpow_add₀ two_ne_zero, zpow_neg_one, one_div]
    _ ≤ 1 / 2 * 2 ^ x.magnitude.exponent := by gcongr
    _ ≤ (x.magnitude.significand - 1 / 2) * 2 ^ x.magnitude.exponent :=
        mul_le_mul_of_nonneg_right (by linarith) unit.le
    _ ≤ _ := (Binary64.half_step_le_lowest x.magnitude).trans
        (Binary64.attracts_shortest canonical nonzero).lowest_le

theorem shortest_lt (canonical : x.IsCanonical) :
    (shortest Binary64.precision Binary64.leastExponent x.magnitude).value < 10 ^ 309 := by
  have significand := Binary64.cast_le_of_lt_precision canonical.significand
  have exponent : (2 : ℚ) ^ x.magnitude.exponent ≤ 2 ^ Binary64.largestExponent :=
    zpow_le_zpow_right₀ one_le_two canonical.exponent
  calc (shortest Binary64.precision Binary64.leastExponent x.magnitude).value
      ≤ (x.magnitude.significand + 1 / 2) * 2 ^ x.magnitude.exponent := value_shortest_le _ _ _
    _ ≤ (2 ^ 53 - 1 / 2) * 2 ^ Binary64.largestExponent :=
        mul_le_mul (by linarith) exponent (by positivity) (by norm_num)
    _ < 10 ^ 309 := Numeral.overflow_lt_ten_pow

theorem abs_power_magnitudeNumeral_le (canonical : x.IsCanonical)
    (nonzero : 0 < x.magnitude.significand) :
    |(magnitudeNumeral x.negative x.magnitude).power| ≤ Numeral.exponentLimit := by
  refine abs_le.mpr ⟨?_, power_magnitudeNumeral_le x.negative nonzero (shortest_lt canonical)⟩
  simp only [Numeral.exponentLimit]
  rcases power_magnitudeNumeral_cases x.negative nonzero with zero | ⟨-, leading⟩
  · omega
  · have exponents := (zpow_lt_zpow_iff_right₀ (by norm_num : (1 : ℚ) < 10)).mp
      ((ten_pow_le_shortest canonical nonzero).trans_lt leading)
    omega

theorem naturalOf_whole_magnitudeNumeral_le (negative : Bool) {magnitude : Scaled}
    (nonzero : 0 < magnitude.significand) :
    Text.naturalOf (magnitudeNumeral negative magnitude).whole ≤ Numeral.limit :=
  naturalOf_whole_le (wellFormed_magnitudeNumeral negative nonzero)
    (length_whole_magnitudeNumeral negative magnitude)

/-! ## What is read -/

theorem readable_of_isShort (canonical : x.IsCanonical) (nonzero : 0 < x.magnitude.significand)
    (short : (magnitudeNumeral x.negative x.magnitude).IsShort) :
    (magnitudeNumeral x.negative x.magnitude).value? = some (real x) := by
  have attracts : Binary64.Attracts x.magnitude
      (magnitudeNumeral x.negative x.magnitude).absolute := by
    rw [absolute_magnitudeNumeral]
    exact Binary64.attracts_shortest canonical nonzero
  rw [value?_magnitudeNumeral, Numeral.real?_of_attracts short
    (abs_power_magnitudeNumeral_le canonical nonzero) canonical nonzero attracts,
    negative_magnitudeNumeral]
  rfl

/-- What is scaled when the text is read is the shortest decimal, up to a small part of it. -/
theorem scaled_magnitudeNumeral (negative : Bool) {magnitude : Scaled}
    (nonzero : 0 < magnitude.significand) :
    |((magnitudeNumeral negative magnitude).significand.1 *
          10 ^ ((magnitudeNumeral negative magnitude).significand.2 +
            (magnitudeNumeral negative magnitude).power) : ℚ) -
        (shortest Binary64.precision Binary64.leastExponent magnitude).value| ≤
      (shortest Binary64.precision Binary64.leastExponent magnitude).value / 2 ^ 60 := by
  rw [← absolute_magnitudeNumeral negative]
  exact Numeral.significand_error (naturalOf_whole_magnitudeNumeral_le negative nonzero)
    (wellFormed_magnitudeNumeral negative nonzero).all_digits

/-- Two steps of scaling are enough for the digits that are kept. -/
theorem le_power_magnitudeNumeral (canonical : x.IsCanonical)
    (nonzero : 0 < x.magnitude.significand) :
    -616 ≤ (magnitudeNumeral x.negative x.magnitude).significand.2 +
      (magnitudeNumeral x.negative x.magnitude).power := by
  have error := (abs_le.mp (scaled_magnitudeNumeral x.negative nonzero)).1
  have fits : ((magnitudeNumeral x.negative x.magnitude).significand.1 : ℚ) ≤ 10 ^ 20 := by
    have short := naturalOf_whole_magnitudeNumeral_le x.negative nonzero
    have kept := (Numeral.significand_bounds short).1.trans (by decide : Numeral.limit ≤ 10 ^ 20)
    exact_mod_cast kept
  have least := ten_pow_le_shortest canonical nonzero
  generalize (magnitudeNumeral x.negative x.magnitude).significand.2 +
    (magnitudeNumeral x.negative x.magnitude).power = power at error ⊢
  have tens : (10 : ℚ) ^ (-324 : Int) < 10 ^ (power + 21) :=
    calc (10 : ℚ) ^ (-324 : Int)
        ≤ (shortest Binary64.precision Binary64.leastExponent x.magnitude).value := least
      _ < (magnitudeNumeral x.negative x.magnitude).significand.1 * 10 ^ power * 10 := by
          have positive : (0 : ℚ) < 10 ^ (-324 : Int) := by positivity
          linarith
      _ ≤ 10 ^ 20 * 10 ^ power * 10 := by gcongr
      _ = 10 ^ (power + 21) := by
          rw [zpow_add₀ (by norm_num)]
          norm_num
          ring
  have exponents := (zpow_lt_zpow_iff_right₀ (by norm_num : (1 : ℚ) < 10)).mp tens
  omega

theorem isCloseTo_of_real? {y : Binary64} (canonical : x.IsCanonical)
    (nonzero : 0 < x.magnitude.significand)
    (read : (magnitudeNumeral x.negative x.magnitude).real? = some y) : y.IsCloseTo x := by
  rw [Numeral.real?_eq_scale (abs_power_magnitudeNumeral_le canonical nonzero),
    Option.map_eq_some_iff] at read
  rcases read with ⟨scaled, isScaled, rfl⟩
  have short := naturalOf_whole_magnitudeNumeral_le x.negative nonzero
  have near := (Numeral.near_scale (Numeral.significand_bounds short).1
    (le_power_magnitudeNumeral canonical nonzero) isScaled).2
  refine ⟨negative_magnitudeNumeral x.negative x.magnitude, ?_⟩
  have kept := scaled_magnitudeNumeral x.negative nonzero
  have half := Binary64.shortest_abs_sub_le canonical nonzero
  have most := value_shortest_le Binary64.precision Binary64.leastExponent x.magnitude
  have unit : (0 : ℚ) < 2 ^ x.magnitude.exponent := by positivity
  have least : (2 : ℚ) ^ Binary64.leastExponent ≤ 2 ^ x.magnitude.exponent :=
    zpow_le_zpow_right₀ one_le_two canonical.least
  -- One part in `2^53` of the decimal is at most one step of the number.
  have part : (shortest Binary64.precision Binary64.leastExponent x.magnitude).value / 2 ^ 53 ≤
      2 ^ x.magnitude.exponent := by
    have significand := Binary64.cast_le_of_lt_precision canonical.significand
    rw [div_le_iff₀ (by norm_num), mul_comm]
    exact most.trans (mul_le_mul_of_nonneg_right (by linarith) unit.le)
  generalize ((magnitudeNumeral x.negative x.magnitude).significand.1 *
    10 ^ ((magnitudeNumeral x.negative x.magnitude).significand.2 +
      (magnitudeNumeral x.negative x.magnitude).power) : ℚ) = exact at near kept
  generalize (shortest Binary64.precision Binary64.leastExponent x.magnitude).value = decimal at *
  have upper := (abs_le.mp kept).2
  calc |scaled.absolute - x.absolute|
      ≤ |scaled.absolute - exact| + |exact - decimal| + |decimal - x.absolute| :=
        (abs_sub_le _ decimal _).trans (add_le_add_left (abs_sub_le _ exact _) _)
    _ ≤ 11 / 2 * (exact / 2 ^ 53) + 3 / 5 * 2 ^ Binary64.leastExponent + decimal / 2 ^ 60 +
          2 ^ x.magnitude.exponent / 2 := add_le_add (add_le_add near kept) half
    _ < 7 * 2 ^ x.magnitude.exponent := by linarith

theorem eq_zero_of_isZero (canonical : x.IsCanonical) (zero : x.isZero = true) :
    x = .zero x.negative := by
  have significand : x.magnitude.significand = 0 := by
    simpa [Binary64.isZero] using zero
  have exponent : x.magnitude.exponent = Binary64.leastExponent := by
    refine canonical.full.resolve_left ?_
    rw [significand]
    decide
  rcases x with ⟨negative, significand, exponent⟩
  simp_all [Binary64.zero]

theorem readable_zero (negative : Bool) : (real (.zero negative)).Readable := by
  rw [Readable]
  cases negative <;> decide +kernel

/-- What a number may be read as once it has been printed. An integer, a zero and a number with a
short text are read back. -/
def RereadAs : Number → Number → Prop
  | integer value, again => again = integer value
  | real x, real y => y.IsCloseTo x ∧ (x.isZero = true ∨ (real x).numeral.IsShort → y = x)
  | real _, integer _ => False

theorem rereadAs_real (canonical : x.IsCanonical) :
    ∃ again, (real x).numeral.value? = some again ∧ (real x).RereadAs again := by
  by_cases isZero : x.isZero = true
  · have readable := readable_zero x.negative
    rw [← eq_zero_of_isZero canonical isZero] at readable
    refine ⟨real x, readable, ⟨rfl, ?_⟩, fun _ => rfl⟩
    rw [sub_self, abs_zero]
    positivity
  · have nonzero := significand_pos isZero
    rcases legible_real canonical.toIsFinite with ⟨again, read⟩
    have printed : (real x).numeral = magnitudeNumeral x.negative x.magnitude := if_neg isZero
    rw [printed, value?_magnitudeNumeral] at read
    rcases Option.map_eq_some_iff.mp read with ⟨y, isReal, rfl⟩
    refine ⟨real y, ?_, isCloseTo_of_real? canonical nonzero isReal, ?_⟩
    · rw [printed, value?_magnitudeNumeral, isReal, Option.map_some]
    · rintro (zero | short)
      · contradiction
      · rw [printed] at short
        have same := readable_of_isShort canonical nonzero short
        rw [value?_magnitudeNumeral, isReal, Option.map_some] at same
        exact real.inj (Option.some.inj same)

theorem Valid.rereadAs {number : Number} (valid : number.Valid) :
    ∃ again, number.numeral.value? = some again ∧ number.RereadAs again := by
  cases number with
  | integer value => exact ⟨integer value, readable_integer valid, rfl⟩
  | real x => exact rereadAs_real valid

end Number

end Printed

/-! ## The numbers of a value -/

mutual

/-- The values differ in their numbers alone, and these are related. -/
def Corresponds (related : Number → Number → Prop) : Json → Json → Prop
  | number first, number second => related first second
  | array first, array second => itemsCorrespond related first second
  | object first, object second => membersCorrespond related first second
  | first, second => first = second

@[inherit_doc Corresponds]
def itemsCorrespond (related : Number → Number → Prop) : List Json → List Json → Prop
  | [], [] => True
  | first :: rest, second :: others =>
    first.Corresponds related second ∧ itemsCorrespond related rest others
  | _, _ => False

@[inherit_doc Corresponds]
def membersCorrespond (related : Number → Number → Prop) :
    List (String × Json) → List (String × Json) → Prop
  | [], [] => True
  | (key, first) :: rest, (otherKey, second) :: others =>
    key = otherKey ∧ first.Corresponds related second ∧ membersCorrespond related rest others
  | _, _ => False

end

section Corresponds

variable {related : Number → Number → Prop}

mutual

/-- A value that is read again has the numbers that its numbers are read as. -/
theorem corresponds_reread (value : Json)
    (every : value.EveryNumber fun number =>
      ∃ again, number.numeral.value? = some again ∧ related number again) :
    value.Corresponds related value.reread := by
  cases value with
  | number value =>
      rcases every with ⟨again, read, isRelated⟩
      rwa [reread, read, Option.getD_some, Corresponds]
  | array items => exact itemsCorrespond_reread items every
  | object members => exact membersCorrespond_reread members every
  | null => rfl
  | bool value => rfl
  | string value => rfl

theorem itemsCorrespond_reread (items : List Json)
    (every : everyItemNumber (fun number =>
      ∃ again, number.numeral.value? = some again ∧ related number again) items) :
    itemsCorrespond related items (rereadItems items) := by
  cases items with
  | nil => trivial
  | cons item rest =>
      exact ⟨corresponds_reread item every.1, itemsCorrespond_reread rest every.2⟩

theorem membersCorrespond_reread (members : List (String × Json))
    (every : everyMemberNumber (fun number =>
      ∃ again, number.numeral.value? = some again ∧ related number again) members) :
    membersCorrespond related members (rereadMembers members) := by
  cases members with
  | nil => trivial
  | cons member rest =>
      rcases member with ⟨key, value⟩
      exact ⟨rfl, corresponds_reread value every.1, membersCorrespond_reread rest every.2⟩

end

end Corresponds

end TransactionLedger.Json
