import Mathlib
import TransactionLedger.Proofs.Timestamp.WrittenForms

/-!
# One reading for each timestamp

A text that several layouts take means the same instant in all of them, so it does not matter in
which order the layouts are tried. What follows the date decides between them: nothing, the letter
and a time of day, or a time of day; and a text with an offset is left unfinished by all others.
-/

namespace TransactionLedger.Timestamp

namespace Scan

variable {text rest : List Char}

/-! ## Parts of a text -/

/-- What is read with more digits at least is read with fewer. -/
theorem digits_of_least_le {least fewer most value : Nat} (ordered : fewer ≤ least)
    (read : digits least most text = some (value, rest)) :
    digits fewer most text = some (value, rest) := by
  simp only [digits] at read ⊢
  split_ifs at read with short
  rw [if_neg (by omega), read]

theorem exists_digit_of_digits {least most value : Nat} (positive : 0 < least)
    (read : digits least most text = some (value, rest)) :
    ∃ c more, text = c :: more ∧ Text.isDigit c = true := by
  cases text with
  | nil => simp [digits, positive] at read
  | cons c more =>
      refine ⟨c, more, rfl, ?_⟩
      by_contra letter
      rw [digits_cons_of_not_isDigit (by simpa using letter) positive] at read
      contradiction

/-- No blank comes before a number of fixed width. -/
theorem trimLeft_of_digits {least most value : Nat} (positive : 0 < least)
    (read : digits least most text = some (value, rest)) : Text.trimLeft text = text := by
  rcases exists_digit_of_digits positive read with ⟨c, more, rfl, digit⟩
  exact Text.trimLeft_cons_of_visible (isBlank_of_isDigit digit)

theorem twoDigits_of_digits {value : Nat} (read : digits 2 2 text = some (value, rest)) :
    twoDigits text = some (value, rest) := by
  rw [twoDigits, trimLeft_of_digits Nat.two_pos read]
  exact digits_of_least_le (by omega) read

theorem year_of_digits_four {value : Nat} (read : digits 4 4 text = some (value, rest)) :
    year text = some ((value : Int), rest) := by
  rcases exists_digit_of_digits (by omega) read with ⟨c, more, rfl, digit⟩
  rw [year_of_digits digit, digits_of_least_le (by omega) read]
  rfl

theorem eq_cons_of_literal {c : Char} {found : Unit} (read : literal c text = some (found, rest)) :
    text = c :: rest := by
  cases text with
  | nil => contradiction
  | cons first more =>
      simp only [literal, Option.ite_none_right_eq_some, Option.some.injEq, Prod.mk.injEq,
        true_and] at read
      rw [read.1, read.2]

/-! ## Fractions at the end -/

/-- A fraction at the end of a text is read alike by the rule that takes any number of digits. -/
theorem fraction_any_of_end {rule : FractionRule} {nanos : Nat}
    (read : fraction rule text = some (nanos, [])) : fraction .any text = some (nanos, []) := by
  unfold fraction at read
  split at read
  · rcases Option.some.inj read with ⟨rfl, rfl⟩
    rfl
  · rename_i digits
    simp only [Option.ite_none_right_eq_some, Option.some.injEq, Prod.mk.injEq] at read
    rcases read with ⟨three, rfl, ends⟩
    have short : digits.length ≤ 3 := List.drop_eq_nil_iff.mp ends
    rw [List.take_of_length_le short] at three ⊢
    have split := congrArg List.length
      (List.takeWhile_append_dropWhile (p := Text.isDigit) (l := digits))
    rw [List.length_append] at split
    have nothing : digits.dropWhile Text.isDigit = [] :=
      List.eq_nil_of_length_eq_zero (by omega)
    have nonempty : (digits.takeWhile Text.isDigit).isEmpty = false := by
      rw [List.isEmpty_eq_false_iff, ← List.length_pos_iff]
      omega
    simp only [fraction, Text.spanDigits, nothing, nonempty, Bool.false_eq_true, if_false]
  · exact read
  · rcases Option.some.inj read with ⟨rfl, rfl⟩
    rfl

theorem time_any_of_end {rule : FractionRule} {clock : Nat × Nat}
    (read : time rule text = some (clock, [])) : time .any text = some (clock, []) := by
  simp only [time, Option.bind_eq_bind, Option.bind_eq_some_iff] at read ⊢
  rcases read with ⟨hour, hourRead, colon, colonRead, minute, minuteRead, second, secondRead,
    third, thirdRead, ⟨nanos, _⟩, fractionRead, found, checked, same⟩
  simp only [Option.pure_def, Option.some.injEq, Prod.mk.injEq] at same
  rcases same with ⟨rfl, rfl⟩
  exact ⟨hour, hourRead, colon, colonRead, minute, minuteRead, second, secondRead, third, thirdRead,
    (nanos, []), fraction_any_of_end fractionRead, found, checked, rfl⟩

/-! ## Texts with an offset -/

/-- The characters that stand between a date and a time of fixed width. -/
def IsSeparator (c : Char) : Prop :=
  c = 'T' ∨ c = 't' ∨ c = ' '

theorem exists_of_separator (read : separator text = some ((), rest)) :
    ∃ c, IsSeparator c ∧ text = c :: rest := by
  cases text with
  | nil => contradiction
  | cons c more =>
      simp only [separator, Option.ite_none_right_eq_some, Option.some.injEq, Prod.mk.injEq,
        true_and] at read
      exact ⟨c, read.1, by rw [read.2]⟩

theorem offset_ne_nil {shift : Int} (read : offset text = some (shift, rest)) : text ≠ [] := by
  rintro rfl
  contradiction

/-- A text with an offset starts with a date and a separator, and no time of day ends it. -/
theorem date_of_offsetInstant {instant : Instant} (read : offsetInstant text = some (instant, [])) :
    ∃ value c clock, date text = some (value, c :: clock) ∧ IsSeparator c ∧
      Text.trimLeft clock = clock ∧ ∀ rule reading, time rule clock ≠ some (reading, []) := by
  rcases Option.bind_eq_some_iff.mp read with ⟨⟨year, _⟩, yearRead, read⟩
  rcases Option.bind_eq_some_iff.mp read with ⟨⟨_, _⟩, dashRead, read⟩
  rcases Option.bind_eq_some_iff.mp read with ⟨⟨month, _⟩, monthRead, read⟩
  rcases Option.bind_eq_some_iff.mp read with ⟨⟨_, _⟩, dashAgain, read⟩
  rcases Option.bind_eq_some_iff.mp read with ⟨⟨day, behind⟩, dayRead, read⟩
  rcases Option.bind_eq_some_iff.mp read with ⟨⟨_, clock⟩, separated, read⟩
  rcases Option.bind_eq_some_iff.mp read with ⟨⟨hour, _⟩, hourRead, read⟩
  rcases Option.bind_eq_some_iff.mp read with ⟨⟨_, _⟩, colonRead, read⟩
  rcases Option.bind_eq_some_iff.mp read with ⟨⟨minute, _⟩, minuteRead, read⟩
  rcases Option.bind_eq_some_iff.mp read with ⟨⟨_, _⟩, colonAgain, read⟩
  rcases Option.bind_eq_some_iff.mp read with ⟨⟨second, _⟩, secondRead, read⟩
  rcases Option.bind_eq_some_iff.mp read with ⟨⟨nanos, left⟩, fractionRead, read⟩
  rcases Option.bind_eq_some_iff.mp read with ⟨⟨shift, _⟩, offsetRead, read⟩
  rcases Option.bind_eq_some_iff.mp read with ⟨value, dateChecked, -⟩
  have dateRead : date text = some (value, behind) := by
    simp only [date, year_of_digits_four yearRead, dashRead, twoDigits_of_digits monthRead, dashAgain,
      twoDigits_of_digits dayRead, dateChecked, Option.bind_eq_bind, Option.bind_some,
      Option.pure_def]
  rcases exists_of_separator separated with ⟨c, separates, rfl⟩
  refine ⟨value, c, clock, dateRead, separates, trimLeft_of_digits Nat.two_pos hourRead, ?_⟩
  · intro rule reading timeRead
    have anyRead := time_any_of_end timeRead
    simp only [time, twoDigits_of_digits hourRead, colonRead, twoDigits_of_digits minuteRead,
      colonAgain, twoDigits_of_digits secondRead, fractionRead, Option.bind_eq_bind, Option.bind_some,
      Option.bind_eq_some_iff, Option.pure_def, Option.some.injEq, Prod.mk.injEq] at anyRead
    rcases anyRead with ⟨_, -, -, ends⟩
    exact offset_ne_nil offsetRead ends

/-- A text that ends with its date or with a time of day behind it has no offset. -/
theorem read?_offset_of_date {value : Date} {behind : List Char}
    (dateRead : date text = some (value, behind))
    (ends : behind = [] ∨
      (∃ clock reading, behind = 'T' :: clock ∧ time .any clock = some (reading, [])) ∨
      ∃ rule reading, time rule (Text.trimLeft behind) = some (reading, [])) :
    Layout.offset.read? text = none := by
  rw [Option.eq_none_iff_forall_ne_some]
  intro instant offsetRead
  have read := Layout.read?_eq_some_iff.mp offsetRead
  rcases date_of_offsetInstant read with
    ⟨_, c, clock, offsetDate, separates, untrimmed, unfinished⟩
  have starts : behind = c :: clock :=
    (Prod.mk.inj (Option.some.inj (dateRead.symm.trans offsetDate))).2
  subst starts
  rcases ends with nothing | ⟨_, reading, lettered, timeRead⟩ | ⟨rule, reading, timeRead⟩
  · contradiction
  · rw [← (List.cons.inj lettered).2] at timeRead
    exact unfinished .any reading timeRead
  · rcases separates with rfl | rfl | rfl
    · rw [Text.trimLeft_cons_of_visible (by decide), time_cons_of_letter (by decide) (by decide)]
        at timeRead
      contradiction
    · rw [Text.trimLeft_cons_of_visible (by decide), time_cons_of_letter (by decide) (by decide)]
        at timeRead
      contradiction
    · rw [Text.trimLeft, List.dropWhile_cons_of_pos (by decide), ← Text.trimLeft, untrimmed]
        at timeRead
      exact unfinished rule reading timeRead

end Scan

namespace Layout

variable {text : List Char} {form other : Layout} {instant found : Instant}

/-! ## What decides between the layouts -/

theorem exists_of_spaced {rule : FractionRule} (read : (spaced rule).read? text = some instant) :
    ∃ value behind clock, Scan.date text = some (value, behind) ∧
      Scan.time rule (Text.trimLeft behind) = some (clock, []) ∧
        instant = Scan.instantAt value clock 0 := by
  simp only [read?_eq_some_iff, Scan.layout, Option.bind_eq_bind, Option.bind_eq_some_iff] at read
  rcases read with ⟨⟨value, behind⟩, dateRead, ⟨clock, _⟩, timeRead, same⟩
  rcases Option.some.inj same with ⟨rfl, rfl⟩
  exact ⟨value, behind, clock, dateRead, timeRead, rfl⟩

theorem exists_of_lettered (read : lettered.read? text = some instant) :
    ∃ value behind clock, Scan.date text = some (value, 'T' :: behind) ∧
      Scan.time .any behind = some (clock, []) := by
  simp only [read?_eq_some_iff, Scan.layout, Option.bind_eq_bind, Option.bind_eq_some_iff] at read
  rcases read with ⟨⟨value, start⟩, dateRead, ⟨_, behind⟩, letterRead, ⟨clock, _⟩, timeRead, same⟩
  rcases Option.some.inj same with ⟨rfl, rfl⟩
  have starts : start = 'T' :: behind := Scan.eq_cons_of_literal letterRead
  exact ⟨value, behind, clock, starts ▸ dateRead, timeRead⟩

theorem exists_of_dateOnly (read : dateOnly.read? text = some instant) :
    ∃ value, Scan.date text = some (value, []) := by
  simp only [read?_eq_some_iff, Scan.layout, Option.bind_eq_bind, Option.bind_eq_some_iff] at read
  rcases read with ⟨⟨value, _⟩, dateRead, same⟩
  rcases Option.some.inj same with ⟨rfl, rfl⟩
  exact ⟨value, dateRead⟩

/-- The layout that reads as much in the same shape with any fraction. -/
def free : Layout → Layout
  | spaced _ => spaced .any
  | form => form

theorem read?_free (read : form.read? text = some instant) :
    form.free.read? text = some instant := by
  cases form with
  | spaced rule =>
      rcases exists_of_spaced read with ⟨value, behind, clock, dateRead, timeRead, rfl⟩
      simp [free, read?_eq_some_iff, Scan.layout, dateRead, Scan.time_any_of_end timeRead]
  | offset => exact read
  | lettered => exact read
  | dateOnly => exact read

/-- The only layout that may take a text, but for the rules on its fraction. -/
def candidate (text : List Char) : Layout :=
  if (offset.read? text).isSome then offset
  else match Scan.date text with
    | some (_, []) => dateOnly
    | some (_, 'T' :: _) => lettered
    | _ => spaced .any

theorem free_eq_candidate (read : form.read? text = some instant) : form.free = candidate text := by
  cases form with
  | offset => simp [free, candidate, read]
  | dateOnly =>
      rcases exists_of_dateOnly read with ⟨value, dateRead⟩
      have noOffset := Scan.read?_offset_of_date dateRead (.inl rfl)
      simp [free, candidate, noOffset, dateRead]
  | lettered =>
      rcases exists_of_lettered read with ⟨value, behind, clock, dateRead, timeRead⟩
      have noOffset :=
        Scan.read?_offset_of_date dateRead (.inr (.inl ⟨behind, clock, rfl, timeRead⟩))
      simp [free, candidate, noOffset, dateRead]
  | spaced rule =>
      rcases exists_of_spaced read with ⟨value, behind, clock, dateRead, timeRead, -⟩
      have noOffset := Scan.read?_offset_of_date dateRead (.inr (.inr ⟨rule, clock, timeRead⟩))
      simp only [free, candidate, noOffset, dateRead, Option.isSome_none, Bool.false_eq_true, if_false]
      -- A time of day neither is empty nor starts with a letter.
      split
      · rename_i same
        rw [(Prod.mk.inj (Option.some.inj same)).2] at timeRead
        contradiction
      · rename_i same
        rw [(Prod.mk.inj (Option.some.inj same)).2, Text.trimLeft_cons_of_visible (by decide),
          Scan.time_cons_of_letter (by decide) (by decide)] at timeRead
        contradiction
      · rfl

/-- A text means the same in all layouts that take it. -/
theorem read?_unique (read : form.read? text = some instant)
    (otherRead : other.read? text = some found) : instant = found := by
  have same : form.free = other.free := (free_eq_candidate read).trans (free_eq_candidate otherRead).symm
  have freeRead := read?_free read
  rw [same, read?_free otherRead] at freeRead
  exact (Option.some.inj freeRead).symm

end Layout

namespace Instant

variable {layouts : List Layout} {input : String} {instant : Instant}

/-! ## Any order of the layouts -/

/-- A text is read if one of the layouts takes it, as the instant that this layout gives. -/
theorem parseBy_eq_ok_iff : parseBy layouts input = .ok instant ↔
    ∃ form ∈ layouts, ∃ found, form.read? (Text.trim input.toList) = some found ∧
      found.truncate = instant := by
  refine ⟨exists_of_parseBy, ?_⟩
  rintro ⟨form, inside, found, formRead, rfl⟩
  cases read : parseBy layouts input with
  | ok first =>
      rcases exists_of_parseBy read with ⟨other, -, otherFound, otherRead, rfl⟩
      rw [Layout.read?_unique otherRead formRead]
  | error error =>
      unfold parseBy at read
      split at read
      · contradiction
      · rename_i refused
        have nothing := List.findSome?_eq_none_iff.mp refused form inside
        simp [formRead] at nothing

theorem parseBy_eq_error_iff {error : TimestampError} : parseBy layouts input = .error error ↔
    error = ⟨input⟩ ∧ ∀ form ∈ layouts, form.read? (Text.trim input.toList) = none := by
  unfold parseBy
  split
  · rename_i found
    rcases List.exists_of_findSome?_eq_some found with ⟨form, inside, cutRead⟩
    simp only [reduceCtorEq, false_iff]
    rintro ⟨-, refused⟩
    simp [refused form inside] at cutRead
  · rename_i refused
    simp only [List.findSome?_eq_none_iff, Option.map_eq_none_iff] at refused
    simp only [Except.error.injEq]
    exact ⟨fun same => ⟨same.symm, refused⟩, fun same => same.1.symm⟩

theorem parseBy_congr {others : List Layout} (same : ∀ form, form ∈ others ↔ form ∈ layouts)
    (input : String) : parseBy others input = parseBy layouts input := by
  cases read : parseBy layouts input with
  | ok instant =>
      rw [parseBy_eq_ok_iff] at read ⊢
      simpa only [same] using read
  | error error =>
      rw [parseBy_eq_error_iff] at read ⊢
      simpa only [same] using read

/-! ## Whole milliseconds -/

theorem lowered_truncate (instant : Instant) : instant.truncate.lowered = instant.lowered := by
  rcases truncate_cases instant with dropped | ⟨kept, -⟩
  · rw [dropped, lowered_lowered]
  · rw [kept]

/-- No second comes behind the last one of the years. -/
theorem Valid.seconds_le (valid : instant.Valid) : instant.seconds ≤ latest.seconds := by
  by_contra later
  have days : latest.seconds / secondsPerDay < instant.seconds / secondsPerDay := by
    have last : latest.seconds = 8210266876799 := by decide
    simp only [last, secondsPerDay] at later ⊢
    omega
  have last : latest.date = ⟨Date.lastYear, 12, 31⟩ := by decide
  have before := date_before_iff.mpr days
  have inYears : instant.date.year ≤ Date.lastYear := valid.1.2
  rcases Date.valid_ofDays (instant.seconds / secondsPerDay) with ⟨-, inYear, -, inMonth⟩
  have month : instant.date.month ≤ 12 := inYear
  have day : instant.date.day ≤ 31 := Nat.le_trans inMonth (Date.daysInMonth_le _ _)
  simp only [last, Date.Before] at before
  omega

/-- An instant that has been cut is a whole number of milliseconds, or lies in the leap second that
ends the years. -/
theorem whole_of_truncate_eq (valid : instant.Valid) (cut : instant.truncate = instant) :
    instant.nanos % nanosPerMilli = 0 ∨
      instant.seconds = latest.seconds ∧ nanosPerSecond ≤ instant.nanos := by
  have inTime := valid.seconds_le
  rcases truncate_cases instant with dropped | ⟨-, behind⟩
  · left
    have nanos := congrArg Instant.nanos (dropped.symm.trans cut)
    simp only [lowered, nanosPerMilli] at nanos ⊢
    omega
  · right
    have lastNanos : latest.nanos = 999999999 := by decide
    simp only [lowered, nanosPerSecond, lastNanos] at behind ⊢
    omega

/-- A text that is read means the same instant in all layouts that take it, to the millisecond, so
the order in which the layouts are tried changes no answer; and a text is refused exactly if all six
layouts refuse it. What is read is a whole number of milliseconds, but for the leap second that ends
the years, where nothing is cut. -/
theorem parse_unambiguous (input : String) :
    (∀ instant, parse input = .ok instant →
      (instant.nanos % nanosPerMilli = 0 ∨
        instant.seconds = latest.seconds ∧ nanosPerSecond ≤ instant.nanos) ∧
      ∀ form ∈ Layout.chain, ∀ found, form.read? (Text.trim input.toList) = some found →
        found.truncate = instant ∧ found.lowered = instant.lowered) ∧
    (∀ order : List Layout, order.Perm Layout.chain → parseBy order input = parse input) ∧
    ∀ error, parse input = .error error ↔
      error = ⟨input⟩ ∧ ∀ form ∈ Layout.chain, form.read? (Text.trim input.toList) = none := by
  refine ⟨?_, fun order perm => parseBy_congr (fun _ => perm.mem_iff) input,
    fun error => parseBy_eq_error_iff⟩
  intro instant read
  rcases valid_of_parse read with ⟨valid, cut⟩
  refine ⟨whole_of_truncate_eq valid cut, ?_⟩
  intro form inside found formRead
  have same : found.truncate = instant :=
    Except.ok.inj ((parseBy_eq_ok_iff.mpr ⟨form, inside, found, formRead, rfl⟩).symm.trans read)
  exact ⟨same, by rw [← same, lowered_truncate]⟩

/-- A leap second whose fraction two layouts take. -/
theorem parse_unambiguous_leapSecond :
    parse "2024-06-30 23:59:60.500" = .ok ⟨1719791999, 1500000000⟩ ∧
      (Layout.spaced .any).read? (Text.trim "2024-06-30 23:59:60.500".toList) =
        some ⟨1719791999, 1500000000⟩ ∧
      (Instant.mk 1719791999 1500000000).truncate = ⟨1719791999, 1500000000⟩ ∧
      parseBy Layout.chain.reverse "2024-06-30 23:59:60.500" = .ok ⟨1719791999, 1500000000⟩ := by
  have read : parse "2024-06-30 23:59:60.500" = .ok ⟨1719791999, 1500000000⟩ := by cbv
  have anyRead : (Layout.spaced .any).read? (Text.trim "2024-06-30 23:59:60.500".toList) =
      some ⟨1719791999, 1500000000⟩ := by
    cbv
  rcases parse_unambiguous "2024-06-30 23:59:60.500" with ⟨agree, ordered, -⟩
  have same := ((agree _ read).2 _ (by decide) _ anyRead).1
  exact ⟨read, anyRead, same, (ordered _ (List.reverse_perm _)).trans read⟩

/-- In the leap second that ends the years, parts of a millisecond are kept. -/
theorem parse_keeps_nanos : parse "+262142-12-31 23:59:60.1234567" =
    .ok ⟨8210266876799, 1123456700⟩ ∧ 1123456700 % nanosPerMilli = 456700 := by
  have read : (Layout.spaced .any).read? (Text.trim "+262142-12-31 23:59:60.1234567".toList) =
      some ⟨8210266876799, 1123456700⟩ := by
    cbv
  exact ⟨parseBy_eq_ok_iff.mpr ⟨_, by decide, _, read, by decide⟩, rfl⟩

end Instant

end TransactionLedger.Timestamp
