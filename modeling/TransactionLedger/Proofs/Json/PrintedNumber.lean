import Mathlib.Data.List.TakeWhile
import Mathlib.Tactic.SplitIfs
import TransactionLedger.Json.Printer
import TransactionLedger.Proofs.Decimal.Shortest
import TransactionLedger.Proofs.Json.Numeral

/-!
# The numerals of numbers

Every number is printed as the text of a well-formed numeral. The digits of a number of the binary
format are those of the shortest decimal that reads back; they do not begin with a zero, unless they
are a single one.
-/

namespace TransactionLedger.Json

namespace Number

/-! ## The digits of a number -/

theorem withoutTrailingZeros_zero : withoutTrailingZeros ['0'] = ['0'] := by
  decide

/-- Digits that begin with another digit than zero keep it, and lose zeros alone. -/
theorem withoutTrailingZeros_cons {first : Char} (rest : List Char) (nonzero : first ≠ '0') :
    ∃ kept count, withoutTrailingZeros (first :: rest) = first :: kept ∧
      rest = kept ++ List.replicate count '0' := by
  have kept : ((first :: rest).reverse.dropWhile (· == '0')).reverse =
      first :: (rest.reverse.dropWhile (· == '0')).reverse := by
    rw [List.reverse_cons, List.dropWhile_append]
    split_ifs with empty
    · rw [List.isEmpty_iff] at empty
      simp [empty, nonzero]
    · simp
  have zeros : (rest.reverse.takeWhile (· == '0')).reverse =
      List.replicate (rest.reverse.takeWhile (· == '0')).length '0' := by
    rw [List.eq_replicate_iff]
    refine ⟨List.length_reverse, fun c inside => ?_⟩
    simpa using List.mem_takeWhile_imp (List.mem_reverse.mp inside)
  refine ⟨(rest.reverse.dropWhile (· == '0')).reverse,
    (rest.reverse.takeWhile (· == '0')).length, ?_, ?_⟩
  · rw [withoutTrailingZeros, kept]
  · rw [← zeros, ← List.reverse_append, List.takeWhile_append_dropWhile, List.reverse_reverse]

theorem isWholePart_withoutTrailingZeros (n : Nat) :
    Numeral.IsWholePart (withoutTrailingZeros (Text.decimal n)) := by
  rcases Text.decimal_head n with zero | ⟨first, rest, starts, digit, nonzero⟩
  · rw [zero]
    exact .inl withoutTrailingZeros_zero
  · rw [starts]
    rcases withoutTrailingZeros_cons rest nonzero with ⟨kept, count, without, whole⟩
    refine .inr ⟨first, kept, without, nonzero, digit, ?_⟩
    intro c inside
    apply Text.isDigit_of_mem_decimal (n := n)
    simp [starts, whole, inside]

/-- Only zeros are dropped. -/
theorem exists_trailingZeros (n : Nat) : ∃ count,
    Text.decimal n = withoutTrailingZeros (Text.decimal n) ++ List.replicate count '0' := by
  rcases Text.decimal_head n with zero | ⟨first, rest, starts, -, nonzero⟩
  · rw [zero, withoutTrailingZeros_zero]
    exact ⟨0, rfl⟩
  · rcases withoutTrailingZeros_cons rest nonzero with ⟨kept, count, without, whole⟩
    rw [starts, without]
    exact ⟨count, congrArg (first :: ·) whole⟩

theorem eq_zero_of_withoutTrailingZeros {n : Nat}
    (zero : withoutTrailingZeros (Text.decimal n) = ['0']) : n = 0 := by
  rcases Text.decimal_head n with single | ⟨first, rest, starts, -, nonzero⟩
  · exact Text.decimal_injective single
  · rcases withoutTrailingZeros_cons rest nonzero with ⟨kept, count, without, -⟩
    rw [starts, without] at zero
    exact absurd (List.cons.inj zero).1 nonzero

/-! ## The numeral of a number -/

/-- Digits with a point; the first digit has the given power of ten. -/
def positionalNumeral (negative : Bool) (digits : List Char) (leading : Int) : Numeral :=
  if leading < 0 then
    ⟨negative, ['0'], some (List.replicate (-leading - 1).toNat '0' ++ digits), none⟩
  else
    let width := leading.toNat + 1
    ⟨negative, digits.take width ++ List.replicate (width - digits.length) '0',
      some (Numeral.orZero (digits.drop width)), none⟩

/-- Digits with an exponent; it is the power of ten of the first digit. -/
def exponentialNumeral (negative : Bool) (digits : List Char) (leading : Int) : Numeral :=
  ⟨negative, digits.take 1, if digits.length ≤ 1 then none else some (digits.drop 1),
    some ⟨'e', some (if leading < 0 then '-' else '+'), Text.decimal leading.natAbs⟩⟩

/-- The numeral that a positive scaled number is printed as, with a sign. -/
def magnitudeNumeral (negative : Bool) (magnitude : Decimal.Scaled) : Numeral :=
  let short := Decimal.shortest Decimal.Binary64.precision Decimal.Binary64.leastExponent magnitude
  let digits := Text.decimal short.digits
  let leading := short.exponent + digits.length - 1
  let digits := withoutTrailingZeros digits
  if leastPositional ≤ leading ∧ leading ≤ largestPositional then
    positionalNumeral negative digits leading
  else exponentialNumeral negative digits leading

/-- The numeral that a number is printed as. -/
def numeral : Number → Numeral
  | integer (.ofNat n) => ⟨false, Text.decimal n, none, none⟩
  | integer (.negSucc n) => ⟨true, Text.decimal (n + 1), none, none⟩
  | real x =>
    if x.isZero then ⟨x.negative, ['0'], some ['0'], none⟩
    else magnitudeNumeral x.negative x.magnitude

section Written

variable {negative : Bool} {digits : List Char} {leading : Int}

theorem wellFormed_positionalNumeral (isWhole : Numeral.IsWholePart digits)
    (zero : digits = ['0'] → leading = 0) :
    (positionalNumeral negative digits leading).WellFormed := by
  have run := Numeral.isRun_of_isWholePart isWhole
  by_cases small : leading < 0
  · rw [positionalNumeral, if_pos small]
    refine ⟨.inl rfl, ?_, by simp⟩
    intro fraction inside
    rcases Option.some.inj inside with rfl
    refine ⟨by simp [run.1], ?_⟩
    intro c inside
    rcases List.mem_append.mp inside with zeros | inside
    · rw [List.eq_of_mem_replicate zeros]
      rfl
    · exact run.2 c inside
  · rw [positionalNumeral, if_neg small]
    refine ⟨?_, ?_, by simp⟩
    · rcases isWhole with rfl | ⟨first, rest, rfl, nonzero, digit, others⟩
      · rw [zero rfl]
        exact .inl rfl
      · refine .inr ⟨first, rest.take leading.toNat ++
          List.replicate (leading.toNat + 1 - (first :: rest).length) '0', rfl, nonzero, digit, ?_⟩
        intro c inside
        rcases List.mem_append.mp inside with inside | zeros
        · exact others c (List.mem_of_mem_take inside)
        · rw [List.eq_of_mem_replicate zeros]
          rfl
    · intro fraction inside
      rcases Option.some.inj inside with rfl
      apply Numeral.isRun_orZero
      intro c inside
      exact run.2 c (List.mem_of_mem_drop inside)

theorem unsigned_positionalNumeral :
    (positionalNumeral negative digits leading).unsigned = positional digits leading := by
  by_cases small : leading < 0 <;>
    simp [positionalNumeral, positional, Numeral.unsigned, Numeral.orZero, small]

theorem wellFormed_exponentialNumeral (isWhole : Numeral.IsWholePart digits) :
    (exponentialNumeral negative digits leading).WellFormed := by
  have run := Numeral.isRun_of_isWholePart isWhole
  refine ⟨?_, ?_, ?_⟩
  · rcases isWhole with rfl | ⟨first, rest, rfl, nonzero, digit, -⟩
    · exact .inl rfl
    · exact .inr ⟨first, [], rfl, nonzero, digit, by simp⟩
  · intro fraction inside
    simp only [exponentialNumeral, Option.mem_def] at inside
    split_ifs at inside with short
    rcases Option.some.inj inside with rfl
    refine ⟨fun empty => short (List.drop_eq_nil_iff.mp empty), ?_⟩
    intro c inside
    exact run.2 c (List.mem_of_mem_drop inside)
  · intro exponent inside
    rcases Option.some.inj inside with rfl
    refine ⟨rfl, ⟨_, ?_, rfl⟩, Numeral.isRun_decimal _⟩
    split_ifs <;> simp

theorem unsigned_exponentialNumeral (nonempty : digits ≠ []) :
    (exponentialNumeral negative digits leading).unsigned = exponential digits leading := by
  cases digits with
  | nil => contradiction
  | cons first rest =>
      cases rest <;>
        simp [exponentialNumeral, exponential, Numeral.unsigned, Exponent.text]

end Written

theorem wellFormed_magnitudeNumeral (negative : Bool) {magnitude : Decimal.Scaled}
    (positive : 0 < magnitude.significand) : (magnitudeNumeral negative magnitude).WellFormed := by
  have exponent : (Decimal.shortest Decimal.Binary64.precision Decimal.Binary64.leastExponent
        magnitude).digits = 0 →
      (Decimal.shortest Decimal.Binary64.precision Decimal.Binary64.leastExponent
        magnitude).exponent = 0 := Decimal.exponent_shortest positive
  simp only [magnitudeNumeral]
  split_ifs
  · apply wellFormed_positionalNumeral (isWholePart_withoutTrailingZeros _)
    intro single
    have zero := eq_zero_of_withoutTrailingZeros single
    rw [exponent zero, zero]
    rfl
  · exact wellFormed_exponentialNumeral (isWholePart_withoutTrailingZeros _)

theorem negative_magnitudeNumeral (negative : Bool) (magnitude : Decimal.Scaled) :
    (magnitudeNumeral negative magnitude).negative = negative := by
  simp only [magnitudeNumeral, positionalNumeral, exponentialNumeral]
  split_ifs <;> rfl

theorem unsigned_magnitudeNumeral (negative : Bool) (magnitude : Decimal.Scaled) :
    (magnitudeNumeral negative magnitude).unsigned = magnitudeText magnitude := by
  simp only [magnitudeNumeral, magnitudeText]
  split_ifs
  · exact unsigned_positionalNumeral
  · exact unsigned_exponentialNumeral
      (Numeral.isRun_of_isWholePart (isWholePart_withoutTrailingZeros _)).1

theorem significand_pos {x : Decimal.Binary64} (nonzero : ¬ x.isZero = true) :
    0 < x.magnitude.significand := by
  simp only [Decimal.Binary64.isZero, beq_iff_eq] at nonzero
  omega

theorem wellFormed_numeral (number : Number) : number.numeral.WellFormed := by
  cases number with
  | integer value =>
      cases value with
      | ofNat n => exact ⟨Numeral.isWholePart_decimal n, by simp [numeral], by simp [numeral]⟩
      | negSucc n =>
          exact ⟨Numeral.isWholePart_decimal (n + 1), by simp [numeral], by simp [numeral]⟩
  | real x =>
      simp only [numeral]
      split_ifs with isZero
      · refine ⟨.inl rfl, ?_, by simp⟩
        intro digits inside
        rcases Option.some.inj inside with rfl
        exact Numeral.isRun_of_isWholePart (.inl rfl)
      · exact wellFormed_magnitudeNumeral x.negative (significand_pos isZero)

/-- A number is printed as the text of its numeral. -/
@[simp]
theorem text_numeral (number : Number) : number.numeral.text = number.text := by
  rw [(wellFormed_numeral number).text_eq]
  cases number with
  | integer value =>
      cases value <;> simp [numeral, Numeral.signText, Numeral.unsigned, text, Text.decimalInt]
  | real x =>
      by_cases isZero : x.isZero = true
      · simp [numeral, text, realText, isZero, Numeral.signText, Numeral.unsigned]
      · simp [numeral, text, realText, isZero, Numeral.signText, negative_magnitudeNumeral,
          unsigned_magnitudeNumeral]

end Number

end TransactionLedger.Json
