import TransactionLedger.Proofs.Text.Digits
import TransactionLedger.Proofs.Timestamp.Calendar
import TransactionLedger.Timestamp.Parser
import TransactionLedger.Timestamp.Printer

/-!
# Reading what is written

The stored form of an instant is read back as the instant lowered to a whole millisecond, by the
first layout.
-/

namespace TransactionLedger.Timestamp

namespace Scan

variable {rest : List Char}

theorem takeWhile_digits {run : List Char} (allDigits : ∀ c ∈ run, Text.isDigit c = true)
    (ends : ∀ c, rest.head? = some c → Text.isDigit c = false) :
    (run ++ rest).takeWhile Text.isDigit = run := by
  rw [List.takeWhile_append_of_pos allDigits]
  cases rest with
  | nil => simp
  | cons c rest => simp [ends c rfl]

theorem takeWhile_take_digits {most : Nat} {run : List Char}
    (allDigits : ∀ c ∈ run, Text.isDigit c = true) (short : run.length ≤ most)
    (ends : run.length = most ∨ ∀ c, rest.head? = some c → Text.isDigit c = false) :
    ((run ++ rest).take most).takeWhile Text.isDigit = run := by
  rw [List.take_append, List.take_of_length_le short]
  apply takeWhile_digits allDigits
  intro c starts
  rw [List.head?_take] at starts
  split_ifs at starts with full
  rcases ends with filled | ends
  · omega
  · exact ends c starts

/-- A run of digits is read to its end, which the width or what follows it marks. -/
theorem digits_append {least most : Nat} {run : List Char}
    (allDigits : ∀ c ∈ run, Text.isDigit c = true) (long : least ≤ run.length)
    (short : run.length ≤ most)
    (ends : run.length = most ∨ ∀ c, rest.head? = some c → Text.isDigit c = false) :
    digits least most (run ++ rest) = some (Text.naturalOf run, rest) := by
  have notShort : ¬ run.length < least := by omega
  simp only [digits, takeWhile_take_digits allDigits short ends, if_neg notShort, List.drop_left]

@[simp]
theorem literal_cons (c : Char) : literal c (c :: rest) = some ((), rest) := by
  simp [literal]

theorem digits_padded {least width n : Nat} (long : least ≤ width) (positive : 0 < width)
    (bound : n < 10 ^ width) :
    digits least width (Text.padded width n ++ rest) = some (n, rest) := by
  have length := Text.length_padded positive bound
  rw [digits_append (fun c => Text.isDigit_of_mem_padded) (by omega) (by omega) (.inl length),
    Text.naturalOf_padded]

theorem isBlank_of_isDigit {c : Char} (digit : Text.isDigit c = true) : Text.isBlank c = false := by
  rw [Text.isDigit_iff] at digit
  simp [Text.isBlank]
  omega

theorem exists_padded_eq_cons (width n : Nat) :
    ∃ c more, Text.padded width n = c :: more ∧ Text.isDigit c = true := by
  cases starts : Text.padded width n with
  | nil => simp [Text.padded] at starts
  | cons c more =>
      have inside : c ∈ Text.padded width n := by simp [starts]
      exact ⟨c, more, rfl, Text.isDigit_of_mem_padded inside⟩

theorem trimLeft_padded {width n : Nat} :
    Text.trimLeft (Text.padded width n ++ rest) = Text.padded width n ++ rest := by
  rcases exists_padded_eq_cons width n with ⟨c, more, starts, digit⟩
  rw [starts]
  exact Text.trimLeft_cons_of_visible (isBlank_of_isDigit digit)

theorem twoDigits_padded {n : Nat} (bound : n < 100) :
    twoDigits (Text.padded 2 n ++ rest) = some (n, rest) := by
  rw [twoDigits, trimLeft_padded, digits_padded (by omega) Nat.zero_lt_two bound]

theorem dash_ends : ∀ c, ('-' :: rest).head? = some c → Text.isDigit c = false := by
  simp [Text.isDigit_eq]

theorem year_of_digits {c : Char} {text : List Char} (digit : Text.isDigit c = true) :
    year (c :: text) =
      (digits 1 4 (c :: text)).map fun (value, rest) => ((value : Int), rest) := by
  rw [year, Text.trimLeft_cons_of_visible (isBlank_of_isDigit digit)]
  split
  · rename_i same
    rw [(List.cons.inj same).1] at digit
    contradiction
  · rename_i same
    rw [(List.cons.inj same).1] at digit
    contradiction
  · rfl

/-- A year is read up to the dash behind it. -/
theorem year_yearText (value : Int) :
    year (yearText value ++ '-' :: rest) = some (value, '-' :: rest) := by
  have signed (n : Nat) : digits 1 (Text.padded 4 n ++ '-' :: rest).length
      (Text.padded 4 n ++ '-' :: rest) = some (n, '-' :: rest) := by
    have long := Text.le_length_padded 4 n
    rw [digits_append (fun c => Text.isDigit_of_mem_padded) (by omega) (by simp) (.inr dash_ends),
      Text.naturalOf_padded]
  simp only [yearText]
  split_ifs with short negative
  · have read : digits 1 4 (Text.padded 4 value.toNat ++ '-' :: rest) =
        some (value.toNat, '-' :: rest) :=
      digits_padded (by omega) (by omega) (by omega)
    rcases exists_padded_eq_cons 4 value.toNat with ⟨c, more, starts, digit⟩
    rw [starts] at read ⊢
    rw [List.cons_append, year_of_digits digit, ← List.cons_append, read]
    simp [Int.toNat_of_nonneg short.1]
  · rw [List.cons_append, year, Text.trimLeft_cons_of_visible rfl]
    simp only [signed, Option.map_some, Option.some.injEq, Prod.mk.injEq, and_true]
    omega
  · rw [List.cons_append, year, Text.trimLeft_cons_of_visible rfl]
    simp only [signed, Option.map_some, Option.some.injEq, Prod.mk.injEq, and_true]
    omega

theorem trimLeft_yearText (value : Int) :
    Text.trimLeft (yearText value ++ rest) = yearText value ++ rest := by
  simp only [yearText]
  split_ifs
  · exact trimLeft_padded
  · exact Text.trimLeft_cons_of_visible rfl
  · exact Text.trimLeft_cons_of_visible rfl

theorem trimRight_padded {front : List Char} {width n : Nat} :
    Text.trimRight (front ++ Text.padded width n) = front ++ Text.padded width n := by
  rcases exists_padded_eq_cons width n with ⟨c, more, starts, -⟩
  have nonempty : Text.padded width n ≠ [] := by simp [starts]
  have last := Text.isDigit_of_mem_padded (List.getLast_mem nonempty)
  rw [← List.dropLast_concat_getLast nonempty, ← List.append_assoc]
  exact Text.trimRight_append_of_visible (isBlank_of_isDigit last)

theorem checkedDate_of_valid {date : Date} (valid : date.Valid) (inRange : date.InRange) :
    checkedDate date.year date.month date.day = some date :=
  if_pos ⟨valid, inRange⟩

theorem date_dateText {value : Date} (valid : value.Valid) (inRange : value.InRange) :
    date (dateText value ++ rest) = some (value, rest) := by
  have dayBound : value.day < 100 := by
    have length := Date.daysInMonth_le value.year value.month
    have most := valid.2.2.2
    omega
  have monthBound : value.month < 100 := by
    have most := valid.2.1
    omega
  simp only [date, dateText, List.append_assoc, List.cons_append, year_yearText, literal_cons,
    twoDigits_padded monthBound, twoDigits_padded dayBound, Option.bind_eq_bind, Option.bind_some,
    checkedDate_of_valid valid inRange, Option.pure_def]

theorem nanosOf_padded {n : Nat} (bound : n < 1000) :
    nanosOf (Text.padded 3 n) = n * nanosPerMilli := by
  have length : (Text.padded 3 n).length = 3 := Text.length_padded (by omega) bound
  have scale : Decimal.pow 10 (9 - 3) = nanosPerMilli := rfl
  simp only [nanosOf]
  rw [List.take_of_length_le (by omega), Text.naturalOf_padded, length, scale]

theorem fraction_padded {n : Nat} (bound : n < 1000) :
    fraction .millis ('.' :: Text.padded 3 n ++ rest) = some (n * nanosPerMilli, rest) := by
  have length : (Text.padded 3 n).length = 3 := Text.length_padded (by omega) bound
  have run : ((Text.padded 3 n ++ rest).take 3).takeWhile Text.isDigit = Text.padded 3 n :=
    takeWhile_take_digits (fun c => Text.isDigit_of_mem_padded) (by omega) (.inl length)
  simp only [fraction, List.cons_append, run, length, if_pos, nanosOf_padded bound,
    List.drop_left' length]

/-- What is written for a leap second is read as a leap second again. -/
theorem checkedTime_parts {instant : Instant} (valid : instant.Valid) :
    checkedTime instant.hour instant.minute instant.second (instant.milli * nanosPerMilli) =
      some (instant.secondOfDay, instant.lowered.nanos) := by
  rcases valid with ⟨-, nanosBound, leap⟩
  have bound : instant.secondOfDay < 86400 := by
    simp only [Instant.secondOfDay, secondsPerDay]
    omega
  have minuteEnd : instant.secondOfDay % 60 = (instant.seconds % 60).toNat := by
    simp only [Instant.secondOfDay, secondsPerDay]
    omega
  simp only [nanosPerSecond] at nanosBound leap
  have inDay : instant.hour ≤ 23 ∧ instant.minute ≤ 59 ∧ instant.second ≤ 60 := by
    simp only [Instant.hour, Instant.minute, Instant.second, nanosPerSecond]
    omega
  rw [checkedTime, if_pos inDay]
  split_ifs with leapSecond <;>
    simp only [Instant.second, nanosPerSecond] at leapSecond
  · simp only [Instant.hour, Instant.minute, Instant.milli, Instant.lowered, nanosPerSecond,
      nanosPerMilli, Option.some.injEq, Prod.mk.injEq]
    omega
  · simp only [Instant.hour, Instant.minute, Instant.second, Instant.milli, Instant.lowered,
      nanosPerSecond, nanosPerMilli, Option.some.injEq, Prod.mk.injEq]
    omega

/-- The time of day is read back without what is finer than a millisecond, by every rule that reads
three digits as milliseconds. -/
theorem time_timeText_of_fraction {rule : FractionRule} {instant : Instant} (valid : instant.Valid)
    (millis : ∀ n < 1000,
      fraction rule ('.' :: Text.padded 3 n ++ rest) = some (n * nanosPerMilli, rest)) :
    time rule (instant.timeText ++ rest) =
      some ((instant.secondOfDay, instant.lowered.nanos), rest) := by
  have nanosBound := valid.2.1
  have bound : instant.secondOfDay < 86400 := by
    simp only [Instant.secondOfDay, secondsPerDay]
    omega
  have hour : instant.hour < 100 := by
    simp only [Instant.hour]
    omega
  have minute : instant.minute < 100 := by
    simp only [Instant.minute]
    omega
  have second : instant.second < 100 := by
    simp only [Instant.second, nanosPerSecond] at nanosBound ⊢
    omega
  have milli : instant.milli < 1000 := by
    simp only [Instant.milli, nanosPerSecond, nanosPerMilli]
    omega
  simp only [time, Instant.timeText, List.append_assoc, List.cons_append, twoDigits_padded hour,
    twoDigits_padded minute, twoDigits_padded second, literal_cons, Option.bind_eq_bind,
    Option.bind_some]
  rw [← List.cons_append, millis instant.milli milli, Option.bind_some, checkedTime_parts valid]
  rfl

theorem time_timeText {instant : Instant} (valid : instant.Valid) :
    time .millis (instant.timeText ++ rest) =
      some ((instant.secondOfDay, instant.lowered.nanos), rest) :=
  time_timeText_of_fraction valid fun _ bound => fraction_padded bound

end Scan

namespace Instant

theorem instantAt_date (instant : Instant) (nanos : Nat) :
    Scan.instantAt instant.date (instant.secondOfDay, nanos) 0 = ⟨instant.seconds, nanos⟩ := by
  simp only [Scan.instantAt, date, Date.toDays_ofDays, secondOfDay, secondsPerDay, mk.injEq,
    and_true]
  omega

theorem trimLeft_timeText (instant : Instant) :
    Text.trimLeft (' ' :: instant.timeText) = instant.timeText := by
  have visible : Text.trimLeft instant.timeText = instant.timeText := by
    simp only [timeText, List.append_assoc]
    exact Scan.trimLeft_padded
  rw [Text.trimLeft, List.dropWhile_cons_of_pos rfl]
  exact visible

theorem read?_stored {instant : Instant} (valid : instant.Valid) :
    (Layout.spaced .millis).read? instant.stored.toList = some instant.lowered := by
  have dateRead : Scan.date (dateText instant.date ++ ' ' :: instant.timeText) =
      some (instant.date, ' ' :: instant.timeText) :=
    Scan.date_dateText (Date.valid_ofDays _) valid.1
  have timeRead : Scan.time .millis (instant.timeText ++ []) =
      some ((instant.secondOfDay, instant.lowered.nanos), []) :=
    Scan.time_timeText valid
  rw [List.append_nil] at timeRead
  simp only [Layout.read?, Scan.layout, stored, String.toList_ofList, dateRead, timeRead,
    Option.bind_eq_bind, Option.bind_some, Option.pure_def, trimLeft_timeText, instantAt_date]
  rfl

theorem trim_stored (instant : Instant) :
    Text.trim instant.stored.toList = instant.stored.toList := by
  simp only [stored, String.toList_ofList, dateText, timeText, List.append_assoc, List.cons_append]
  rw [Text.trim, Scan.trimLeft_yearText]
  simp only [← List.cons_append, ← List.append_assoc]
  rw [List.append_cons, Scan.trimRight_padded]

/-- The stored form is read back as the instant lowered to a whole millisecond. -/
theorem parse_stored {instant : Instant} (valid : instant.Valid) :
    parse instant.stored = .ok instant.lowered := by
  have first : (Layout.chain.findSome? fun layout =>
      (layout.read? (Text.trim instant.stored.toList)).map layout.cut) =
        some instant.lowered := by
    rw [trim_stored, Layout.chain, List.findSome?_cons, read?_stored valid]
    rfl
  simp only [parse, parseBy, first]

end Instant

end TransactionLedger.Timestamp
