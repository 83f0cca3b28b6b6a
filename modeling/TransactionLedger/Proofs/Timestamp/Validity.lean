import TransactionLedger.Proofs.Text.Digits
import TransactionLedger.Proofs.Timestamp.Calendar
import TransactionLedger.Timestamp.Parser

/-!
# What is read from a timestamp

Whatever layout takes a text, the instant it gives is a valid one that is cut to milliseconds.
-/

namespace TransactionLedger.Timestamp

namespace Scan

variable {text rest : List Char}

/-- The time of day is a second of the day with its nanoseconds; only the last second of a minute
may be a leap second. -/
structure TimeOfDay (time : Nat × Nat) : Prop where
  inDay : time.1 < 86400
  nanosBound : time.2 < 2 * nanosPerSecond
  leap : nanosPerSecond ≤ time.2 → time.1 % 60 = 59

theorem isDigit_of_mem_takeWhile {c : Char} (inside : c ∈ text.takeWhile Text.isDigit) :
    Text.isDigit c = true :=
  List.all_eq_true.mp List.all_takeWhile c inside

theorem digits_lt {least most value : Nat} (read : digits least most text = some (value, rest)) :
    value < 10 ^ most := by
  simp only [digits] at read
  split_ifs at read
  rcases Option.some.inj read with ⟨rfl, rfl⟩
  have bound := Text.naturalOf_lt fun c (inside : c ∈ (text.take most).takeWhile Text.isDigit) =>
    isDigit_of_mem_takeWhile inside
  have short : ((text.take most).takeWhile Text.isDigit).length ≤ most :=
    Nat.le_trans (List.takeWhile_sublist _).length_le (List.length_take_le most text)
  exact Nat.lt_of_lt_of_le bound (Nat.pow_le_pow_right (by omega) short)

theorem nanosOf_lt {run : List Char} (allDigits : ∀ c ∈ run, Text.isDigit c = true) :
    nanosOf run < nanosPerSecond := by
  have bound := Text.naturalOf_lt fun c (inside : c ∈ run.take 9) =>
    allDigits c (List.mem_of_mem_take inside)
  have short : (run.take 9).length ≤ 9 := List.length_take_le 9 run
  calc Text.naturalOf (run.take 9) * 10 ^ (9 - (run.take 9).length)
      < 10 ^ (run.take 9).length * 10 ^ (9 - (run.take 9).length) :=
        Nat.mul_lt_mul_of_pos_right bound (Nat.pow_pos (by omega))
    _ = nanosPerSecond := by
        rw [← Nat.pow_add, Nat.add_sub_cancel' short]
        rfl

theorem fraction_lt {rule : FractionRule} {nanos : Nat}
    (read : fraction rule text = some (nanos, rest)) : nanos < nanosPerSecond := by
  unfold fraction at read
  split at read
  · rcases Option.some.inj read with ⟨rfl, rfl⟩
    simp [nanosPerSecond]
  · simp only [Option.ite_none_right_eq_some, Option.some.injEq, Prod.mk.injEq] at read
    rcases read with ⟨-, rfl, -⟩
    exact nanosOf_lt fun c => isDigit_of_mem_takeWhile
  · split at read
    rename_i digits _ spanned
    rw [Option.ite_none_left_eq_some] at read
    rcases Option.some.inj read.2 with ⟨rfl, rfl⟩
    rw [← (Prod.mk.inj spanned).1]
    exact nanosOf_lt fun c => isDigit_of_mem_takeWhile
  · rcases Option.some.inj read with ⟨rfl, rfl⟩
    simp [nanosPerSecond]

theorem timeOfDay_of_checkedTime {hour minute second nanos : Nat} {time : Nat × Nat}
    (bound : nanos < nanosPerSecond) (checked : checkedTime hour minute second nanos = some time) :
    TimeOfDay time := by
  simp only [checkedTime] at checked
  split_ifs at checked with inDay leapSecond
  · rcases Option.some.inj checked with rfl
    exact ⟨by simp only; omega, by simp only; omega, by simp only; omega⟩
  · rcases Option.some.inj checked with rfl
    exact ⟨by simp only; omega, by simp only; omega, by simp only; omega⟩

theorem timeOfDay_of_time {rule : FractionRule} {value : Nat × Nat}
    (read : time rule text = some (value, rest)) : TimeOfDay value := by
  simp only [time, Option.bind_eq_bind, Option.bind_eq_some_iff] at read
  rcases read with ⟨⟨hour, _⟩, -, _, -, ⟨minute, _⟩, -, _, -, ⟨second, _⟩, -, ⟨nanos, _⟩,
    fractionRead, found, checked, same⟩
  rcases Option.some.inj same with ⟨rfl, rfl⟩
  exact timeOfDay_of_checkedTime (fraction_lt fractionRead) checked

theorem of_checkedDate {year : Int} {month day : Nat} {value : Date}
    (checked : checkedDate year month day = some value) :
    value = ⟨year, month, day⟩ ∧ value.Valid ∧ value.InRange := by
  simp only [checkedDate] at checked
  split_ifs at checked with sound
  rcases Option.some.inj checked with rfl
  exact ⟨rfl, sound⟩

theorem of_date {value : Date} (read : date text = some (value, rest)) :
    value.Valid ∧ value.InRange := by
  simp only [date, Option.bind_eq_bind, Option.bind_eq_some_iff] at read
  rcases read with ⟨_, -, _, -, _, -, _, -, _, -, found, checked, same⟩
  rcases Option.some.inj same with ⟨rfl, rfl⟩
  exact (of_checkedDate checked).2

/-- The instant at a time of a date that is not near the ends of the years. -/
theorem valid_instantAt {value : Date} {time : Nat × Nat} {offset : Int}
    (timeOfDay : TimeOfDay time) (minutes : offset % 60 = 0)
    (inRange : (Date.ofDays
      ((value.toDays * secondsPerDay + time.1 - offset) / secondsPerDay)).InRange) :
    (instantAt value time offset).Valid := by
  refine ⟨inRange, timeOfDay.nanosBound, ?_⟩
  intro leap
  have last := timeOfDay.leap leap
  simp only [instantAt, secondsPerDay]
  omega

theorem valid_instantAt_zero {value : Date} {time : Nat × Nat} (timeOfDay : TimeOfDay time)
    (valid : value.Valid) (inRange : value.InRange) : (instantAt value time 0).Valid := by
  apply valid_instantAt timeOfDay rfl
  have inDay := timeOfDay.inDay
  have day : (value.toDays * secondsPerDay + time.1 - 0) / secondsPerDay = value.toDays := by
    simp only [secondsPerDay]
    omega
  rw [day, Date.ofDays_toDays valid]
  exact inRange

/-- A date with a year of four digits is far from the ends of the years. -/
theorem toDays_bounds {value : Date} (valid : value.Valid) (least : 0 ≤ value.year)
    (most : value.year < 10000) : -1000000 < value.toDays ∧ value.toDays < 4000000 := by
  rcases valid with ⟨monthLeast, monthMost, dayLeast, dayMost⟩
  have length := Date.daysInMonth_le value.year value.month
  simp only [Date.toDays, Date.daysPerEra, Date.epochOffset]
  split_ifs <;> omega

theorem inRange_ofDays {days : Int} (least : -2000000 < days) (most : days < 5000000) :
    (Date.ofDays days).InRange := by
  simp only [Date.InRange, Date.firstYear, Date.lastYear, Date.ofDays, Date.daysPerEra,
    Date.epochOffset]
  split_ifs <;> omega

theorem offset_bounds {value : Int} (read : offset text = some (value, rest)) :
    -86400 < value ∧ value < 86400 ∧ value % 60 = 0 := by
  unfold offset at read
  split at read
  · rcases Option.some.inj read with ⟨rfl, rfl⟩
    simp
  · rcases Option.some.inj read with ⟨rfl, rfl⟩
    simp
  · simp only [Option.bind_eq_bind, Option.bind_eq_some_iff] at read
    rcases read with ⟨⟨negative, _⟩, -, ⟨hours, _⟩, -, _, -, ⟨minutes, _⟩, -, _, small, same⟩
    have bound : hours ≤ 23 ∧ minutes ≤ 59 := by
      by_contra large
      simp [guard, large] at small
    rcases Option.some.inj same with ⟨rfl, rfl⟩
    split_ifs <;> omega

theorem valid_of_offsetInstant {instant : Instant}
    (read : offsetInstant text = some (instant, rest)) : instant.Valid := by
  rcases Option.bind_eq_some_iff.mp read with ⟨⟨year, _⟩, yearRead, read⟩
  rcases Option.bind_eq_some_iff.mp read with ⟨_, -, read⟩
  rcases Option.bind_eq_some_iff.mp read with ⟨⟨month, _⟩, -, read⟩
  rcases Option.bind_eq_some_iff.mp read with ⟨_, -, read⟩
  rcases Option.bind_eq_some_iff.mp read with ⟨⟨day, _⟩, -, read⟩
  rcases Option.bind_eq_some_iff.mp read with ⟨_, -, read⟩
  rcases Option.bind_eq_some_iff.mp read with ⟨⟨hour, _⟩, -, read⟩
  rcases Option.bind_eq_some_iff.mp read with ⟨_, -, read⟩
  rcases Option.bind_eq_some_iff.mp read with ⟨⟨minute, _⟩, -, read⟩
  rcases Option.bind_eq_some_iff.mp read with ⟨_, -, read⟩
  rcases Option.bind_eq_some_iff.mp read with ⟨⟨second, _⟩, -, read⟩
  rcases Option.bind_eq_some_iff.mp read with ⟨⟨nanos, _⟩, fractionRead, read⟩
  rcases Option.bind_eq_some_iff.mp read with ⟨⟨shift, _⟩, offsetRead, read⟩
  rcases Option.bind_eq_some_iff.mp read with ⟨value, dateChecked, read⟩
  rcases Option.bind_eq_some_iff.mp read with ⟨time, timeChecked, read⟩
  rcases Option.some.inj read with ⟨rfl, rfl⟩
  rcases of_checkedDate dateChecked with ⟨rfl, valid, -⟩
  have timeOfDay := timeOfDay_of_checkedTime (fraction_lt fractionRead) timeChecked
  rcases offset_bounds offsetRead with ⟨shiftLeast, shiftMost, minutes⟩
  have yearBound := digits_lt yearRead
  rcases toDays_bounds valid (by simp) (by simp only; omega) with ⟨dayLeast, dayMost⟩
  have inDay := timeOfDay.inDay
  apply valid_instantAt timeOfDay minutes
  apply inRange_ofDays
  · simp only [secondsPerDay]
    omega
  · simp only [secondsPerDay]
    omega

theorem valid_of_layout {form : Layout} {instant : Instant}
    (read : layout form text = some (instant, rest)) : instant.Valid := by
  cases form with
  | spaced rule =>
      simp only [layout, Option.bind_eq_bind, Option.bind_eq_some_iff] at read
      rcases read with ⟨⟨value, _⟩, dateRead, ⟨time, _⟩, timeRead, same⟩
      rcases Option.some.inj same with ⟨rfl, rfl⟩
      rcases of_date dateRead with ⟨valid, inRange⟩
      exact valid_instantAt_zero (timeOfDay_of_time timeRead) valid inRange
  | offset => exact valid_of_offsetInstant read
  | lettered =>
      simp only [layout, Option.bind_eq_bind, Option.bind_eq_some_iff] at read
      rcases read with ⟨⟨value, _⟩, dateRead, _, -, ⟨time, _⟩, timeRead, same⟩
      rcases Option.some.inj same with ⟨rfl, rfl⟩
      rcases of_date dateRead with ⟨valid, inRange⟩
      exact valid_instantAt_zero (timeOfDay_of_time timeRead) valid inRange
  | dateOnly =>
      simp only [layout, Option.bind_eq_bind, Option.bind_eq_some_iff] at read
      rcases read with ⟨⟨value, _⟩, dateRead, same⟩
      rcases Option.some.inj same with ⟨rfl, rfl⟩
      rcases of_date dateRead with ⟨valid, inRange⟩
      have midnight : TimeOfDay (0, 0) :=
        ⟨by simp, by simp [nanosPerSecond], by simp [nanosPerSecond]⟩
      have start := valid_instantAt_zero midnight valid inRange
      simpa [instantAt, Instant.midnight] using start

/-! ## Whole milliseconds -/

/-- A fraction of three digits or none is a whole number of milliseconds. -/
theorem whole_of_fraction {rule : FractionRule} (short : rule ≠ .any) {nanos : Nat}
    (read : fraction rule text = some (nanos, rest)) : nanos % nanosPerMilli = 0 := by
  unfold fraction at read
  split at read
  · rcases Option.some.inj read with ⟨rfl, rfl⟩
    rfl
  · simp only [Option.ite_none_right_eq_some, Option.some.injEq, Prod.mk.injEq] at read
    rcases read with ⟨three, rfl, -⟩
    have scale : Decimal.pow 10 (9 - 3) = nanosPerMilli := rfl
    rw [nanosOf, List.take_of_length_le (by omega), three, scale, Nat.mul_mod_left]
  · contradiction
  · rcases Option.some.inj read with ⟨rfl, rfl⟩
    rfl

theorem whole_of_time {rule : FractionRule} (short : rule ≠ .any) {value : Nat × Nat}
    (read : time rule text = some (value, rest)) : value.2 % nanosPerMilli = 0 := by
  simp only [time, Option.bind_eq_bind, Option.bind_eq_some_iff] at read
  rcases read with ⟨⟨hour, _⟩, -, _, -, ⟨minute, _⟩, -, _, -, ⟨second, _⟩, -, ⟨nanos, _⟩,
    fractionRead, found, checked, same⟩
  rcases Option.some.inj same with ⟨rfl, rfl⟩
  have whole := whole_of_fraction short fractionRead
  simp only [checkedTime] at checked
  split_ifs at checked
  · rcases Option.some.inj checked with rfl
    simp only [nanosPerSecond, nanosPerMilli] at whole ⊢
    omega
  · rcases Option.some.inj checked with rfl
    exact whole

end Scan

namespace Instant

theorem lowered_of_whole {instant : Instant} (whole : instant.nanos % nanosPerMilli = 0) :
    instant.lowered = instant := by
  simp [lowered, whole]

theorem truncate_of_whole {instant : Instant} (whole : instant.nanos % nanosPerMilli = 0) :
    instant.truncate = instant := by
  rcases truncate_cases instant with dropped | ⟨kept, -⟩
  · rw [dropped, lowered_of_whole whole]
  · exact kept

theorem Valid.lowered {instant : Instant} (valid : instant.Valid) : instant.lowered.Valid := by
  rcases valid with ⟨inRange, nanosBound, leap⟩
  refine ⟨inRange, ?_, ?_⟩
  · simp only [Instant.lowered]
    omega
  · intro late
    apply leap
    simp only [Instant.lowered] at late
    omega

theorem Valid.truncate {instant : Instant} (valid : instant.Valid) : instant.truncate.Valid := by
  rcases truncate_cases instant with dropped | ⟨kept, -⟩
  · rw [dropped]
    exact valid.lowered
  · rw [kept]
    exact valid

end Instant

namespace Layout

variable {text : List Char} {form : Layout} {instant : Instant}

theorem read?_eq_some_iff :
    form.read? text = some instant ↔ Scan.layout form text = some (instant, []) := by
  unfold read?
  split
  · rename_i whole
    simp [whole]
  · rename_i partly
    simp only [reduceCtorEq, false_iff]
    exact partly instant

/-- Every layout cuts what it reads to milliseconds, whether it has to be cut or not. -/
theorem cut_of_read? (read : form.read? text = some instant) : form.cut instant = instant.truncate := by
  rw [read?_eq_some_iff] at read
  have uncut (whole : instant.nanos % nanosPerMilli = 0) : id instant = instant.truncate :=
    (Instant.truncate_of_whole whole).symm
  cases form with
  | spaced rule =>
      simp only [Scan.layout, Option.bind_eq_bind, Option.bind_eq_some_iff] at read
      rcases read with ⟨⟨value, _⟩, -, ⟨time, _⟩, timeRead, same⟩
      rcases Option.some.inj same with ⟨rfl, -⟩
      cases rule with
      | any => rfl
      | millis => exact uncut (Scan.whole_of_time (by simp) timeRead)
      | absent => exact uncut (Scan.whole_of_time (by simp) timeRead)
  | offset => rfl
  | lettered => rfl
  | dateOnly =>
      simp only [Scan.layout, Option.bind_eq_bind, Option.bind_eq_some_iff] at read
      rcases read with ⟨⟨value, _⟩, -, same⟩
      rcases Option.some.inj same with ⟨rfl, -⟩
      exact uncut rfl

end Layout

namespace Instant

/-- What is read has been read by one of the layouts, and is cut to milliseconds. -/
theorem exists_of_parseBy {layouts : List Layout} {input : String} {instant : Instant}
    (read : parseBy layouts input = .ok instant) :
    ∃ form ∈ layouts, ∃ found, form.read? (Text.trim input.toList) = some found ∧
      found.truncate = instant := by
  unfold parseBy at read
  split at read
  · rename_i found
    rcases Except.ok.inj read with rfl
    rcases List.exists_of_findSome?_eq_some found with ⟨form, inside, cutRead⟩
    rcases Option.map_eq_some_iff.mp cutRead with ⟨uncut, formRead, rfl⟩
    exact ⟨form, inside, uncut, formRead, (Layout.cut_of_read? formRead).symm⟩
  · contradiction

/-- What is read is a valid instant, cut to milliseconds. -/
theorem valid_of_parse {input : String} {instant : Instant} (read : parse input = .ok instant) :
    instant.Valid ∧ instant.truncate = instant := by
  rcases exists_of_parseBy read with ⟨form, -, found, formRead, rfl⟩
  have valid := Scan.valid_of_layout (Layout.read?_eq_some_iff.mp formRead)
  exact ⟨valid.truncate, truncate_truncate found⟩

end Instant

end TransactionLedger.Timestamp
