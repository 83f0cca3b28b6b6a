import TransactionLedger.Proofs.Timestamp.Order

/-!
# The two written forms

The stored form of any instant is read back to the millisecond. The form that leaves the ledger is
read back by the layout with an offset, whose years have four digits; no layout takes the text of
another year.
-/

namespace TransactionLedger.Timestamp

namespace Scan

variable {rest : List Char}

theorem fraction_any_padded {n : Nat} (bound : n < 1000)
    (ends : ∀ c, rest.head? = some c → Text.isDigit c = false) :
    fraction .any ('.' :: Text.padded 3 n ++ rest) = some (n * nanosPerMilli, rest) := by
  have run : (Text.padded 3 n ++ rest).takeWhile Text.isDigit = Text.padded 3 n :=
    takeWhile_digits (fun c => Text.isDigit_of_mem_padded) ends
  have behind : (Text.padded 3 n ++ rest).dropWhile Text.isDigit = rest := by
    have whole := List.takeWhile_append_dropWhile (p := Text.isDigit) (l := Text.padded 3 n ++ rest)
    rw [run] at whole
    exact List.append_cancel_left whole
  rcases exists_padded_eq_cons 3 n with ⟨c, more, starts, -⟩
  have nonempty : (Text.padded 3 n).isEmpty = false := by
    rw [starts]
    rfl
  simp only [fraction, List.cons_append, Text.spanDigits, run, behind, nonempty,
    Bool.false_eq_true, if_false, nanosOf_padded bound]

/-- A letter does not start a number. -/
theorem digits_cons_of_not_isDigit {least most : Nat} {c : Char}
    (letter : Text.isDigit c = false) (positive : 0 < least) :
    digits least most (c :: rest) = none := by
  have run : ((c :: rest).take most).takeWhile Text.isDigit = [] := by
    cases most with
    | zero => rfl
    | succ most => simp [letter]
  simp [digits, run, positive]

/-- A time of day starts with a digit, behind blanks. -/
theorem time_cons_of_letter {rule : FractionRule} {c : Char} (visible : Text.isBlank c = false)
    (letter : Text.isDigit c = false) : time rule (c :: rest) = none := by
  have noHour : twoDigits (c :: rest) = none := by
    rw [twoDigits, Text.trimLeft_cons_of_visible visible]
    exact digits_cons_of_not_isDigit letter Nat.one_pos
  simp [time, noHour]

end Scan

namespace Instant

variable {instant : Instant}

/-! ## The stored form -/

/-- The stored form of an instant is read back as the instant with its nanoseconds lowered to a
whole millisecond. What was a leap second is one again, and nothing else becomes one. -/
theorem stored_roundtrip (valid : instant.Valid) : ∃ found, parse instant.stored = .ok found ∧
    found.Valid ∧ found.seconds = instant.seconds ∧
      found.nanos = instant.nanos / nanosPerMilli * nanosPerMilli ∧
        (nanosPerSecond ≤ found.nanos ↔ nanosPerSecond ≤ instant.nanos) := by
  have floor : instant.lowered.nanos = instant.nanos / nanosPerMilli * nanosPerMilli := by
    simp only [lowered, nanosPerMilli]
    omega
  refine ⟨instant.lowered, parse_stored valid, valid.lowered, rfl, floor, ?_⟩
  rw [floor]
  simp only [nanosPerSecond, nanosPerMilli]
  omega

/-- The last nanosecond of a leap second in the first minute of all. -/
def earliestLeap : Instant :=
  ⟨-8334601228741, 1999999999⟩

theorem stored_earliestLeap : earliestLeap.Valid ∧
    earliestLeap.stored = "-262143-01-01 00:00:60.999" ∧
      ∃ found, parse earliestLeap.stored = .ok found ∧ found.nanos = 1999000000 := by
  have valid : earliestLeap.Valid := by decide
  rcases stored_roundtrip valid with ⟨found, read, -, -, nanos, -⟩
  exact ⟨valid, by decide +kernel, found, read, nanos⟩

/-! ## The form that leaves the ledger -/

/-- Nothing below a millisecond is written. -/
theorem iso_lowered (instant : Instant) : instant.lowered.iso = instant.iso := by
  have second : instant.lowered.second = instant.second := by
    simp only [second, lowered, secondOfDay, nanosPerSecond, nanosPerMilli]
    omega
  have milli : instant.lowered.milli = instant.milli := by
    simp only [milli, lowered, nanosPerSecond, nanosPerMilli]
    omega
  simp only [iso, timeText, second, milli]
  rfl

theorem toList_iso (instant : Instant) :
    instant.iso.toList = dateText instant.date ++ 'T' :: (instant.timeText ++ ['Z']) := by
  simp [iso]

theorem date_iso (valid : instant.Valid) :
    Scan.date instant.iso.toList = some (instant.date, 'T' :: (instant.timeText ++ ['Z'])) := by
  rw [toList_iso]
  exact Scan.date_dateText (Date.valid_ofDays _) valid.1

theorem trim_iso (instant : Instant) : Text.trim instant.iso.toList = instant.iso.toList := by
  have start : Text.trimLeft instant.iso.toList = instant.iso.toList := by
    simp only [toList_iso, dateText, List.append_assoc]
    exact Scan.trimLeft_yearText _
  rw [Text.trim, start, toList_iso, ← List.cons_append, ← List.append_assoc]
  exact Text.trimRight_append_of_visible (by decide)

theorem ends_iso : ∀ c, ['Z'].head? = some c → Text.isDigit c = false := by
  simp [Text.isDigit_eq]

theorem time_iso (valid : instant.Valid) : Scan.time .any (instant.timeText ++ ['Z']) =
    some ((instant.secondOfDay, instant.lowered.nanos), ['Z']) :=
  Scan.time_timeText_of_fraction valid fun _ bound => Scan.fraction_any_padded bound ends_iso

/-- The letter between date and time is no blank. -/
theorem read?_spaced_iso (valid : instant.Valid) (rule : FractionRule) :
    (Layout.spaced rule).read? instant.iso.toList = none := by
  have visible : Text.trimLeft ('T' :: (instant.timeText ++ ['Z'])) =
      'T' :: (instant.timeText ++ ['Z']) :=
    Text.trimLeft_cons_of_visible (by decide)
  have noTime : Scan.time rule ('T' :: (instant.timeText ++ ['Z'])) = none :=
    Scan.time_cons_of_letter (by decide) (by decide)
  simp [Layout.read?, Scan.layout, date_iso valid, visible, noTime]

/-- Without an offset, the letter at the end is left over. -/
theorem read?_lettered_iso (valid : instant.Valid) :
    Layout.lettered.read? instant.iso.toList = none := by
  simp [Layout.read?, Scan.layout, date_iso valid, time_iso valid]

theorem read?_dateOnly_iso (valid : instant.Valid) :
    Layout.dateOnly.read? instant.iso.toList = none := by
  simp [Layout.read?, Scan.layout, date_iso valid]

theorem read?_offset_iso (valid : instant.Valid) (inYear : instant.InFourDigitYear) :
    Layout.offset.read? instant.iso.toList = some instant.lowered := by
  rcases date_lt inYear with ⟨year, month, day⟩
  rcases valid.clock_lt with ⟨hour, minute, second, milli⟩
  have text : instant.iso.toList = Text.padded 4 instant.date.year.toNat ++ '-' ::
      (Text.padded 2 instant.date.month ++ '-' :: (Text.padded 2 instant.date.day ++ 'T' ::
        (Text.padded 2 instant.hour ++ ':' :: (Text.padded 2 instant.minute ++ ':' ::
          (Text.padded 2 instant.second ++ ('.' :: Text.padded 3 instant.milli ++ ['Z'])))))) := by
    have yearWritten : yearText instant.date.year = Text.padded 4 instant.date.year.toNat :=
      if_pos inYear
    simp [toList_iso, dateText, yearWritten, timeText]
  have dateChecked : Scan.checkedDate instant.date.year.toNat instant.date.month instant.date.day =
      some instant.date := by
    rw [Int.toNat_of_nonneg inYear.1]
    exact Scan.checkedDate_of_valid (Date.valid_ofDays _) valid.1
  have read : Scan.offsetInstant instant.iso.toList =
      some (Scan.instantAt instant.date (instant.secondOfDay, instant.lowered.nanos) 0, []) := by
    rw [text]
    refine Option.bind_eq_some_iff.mpr ⟨_, Scan.digits_padded (Nat.le_refl 4) (by omega) year, ?_⟩
    refine Option.bind_eq_some_iff.mpr ⟨_, Scan.literal_cons '-', ?_⟩
    refine Option.bind_eq_some_iff.mpr ⟨_, Scan.digits_padded (Nat.le_refl 2) (by omega) month, ?_⟩
    refine Option.bind_eq_some_iff.mpr ⟨_, Scan.literal_cons '-', ?_⟩
    refine Option.bind_eq_some_iff.mpr ⟨_, Scan.digits_padded (Nat.le_refl 2) (by omega) day, ?_⟩
    refine Option.bind_eq_some_iff.mpr ⟨((), _), rfl, ?_⟩
    refine Option.bind_eq_some_iff.mpr ⟨_, Scan.digits_padded (Nat.le_refl 2) (by omega) hour, ?_⟩
    refine Option.bind_eq_some_iff.mpr ⟨_, Scan.literal_cons ':', ?_⟩
    refine Option.bind_eq_some_iff.mpr ⟨_, Scan.digits_padded (Nat.le_refl 2) (by omega) minute, ?_⟩
    refine Option.bind_eq_some_iff.mpr ⟨_, Scan.literal_cons ':', ?_⟩
    refine Option.bind_eq_some_iff.mpr ⟨_, Scan.digits_padded (Nat.le_refl 2) (by omega) second, ?_⟩
    refine Option.bind_eq_some_iff.mpr ⟨_, Scan.fraction_any_padded milli ends_iso, ?_⟩
    refine Option.bind_eq_some_iff.mpr ⟨(0, []), rfl, ?_⟩
    refine Option.bind_eq_some_iff.mpr ⟨_, dateChecked, ?_⟩
    exact Option.bind_eq_some_iff.mpr ⟨_, Scan.checkedTime_parts valid, rfl⟩
  rw [Layout.read?, Scan.layout, read, instantAt_date]
  rfl

/-- The layout with an offset knows no sign before the year. -/
theorem read?_offset_iso_of_distant (distant : ¬ instant.InFourDigitYear) :
    Layout.offset.read? instant.iso.toList = none := by
  have year : yearText instant.date.year =
      (if instant.date.year < 0 then '-' else '+') :: Text.padded 4 instant.date.year.natAbs :=
    if_neg distant
  have sign : Text.isDigit (if instant.date.year < 0 then '-' else '+') = false := by
    split_ifs <;> decide
  have noYear : Scan.digits 4 4 instant.iso.toList = none := by
    rw [toList_iso, dateText, year]
    exact Scan.digits_cons_of_not_isDigit sign (by omega)
  rw [Layout.read?, Scan.layout, Scan.offsetInstant, noYear]
  rfl

/-- The form that leaves the ledger is read back in the years of four digits, and refused in all
others. -/
theorem parse_iso (valid : instant.Valid) : parse instant.iso =
    if instant.InFourDigitYear then .ok instant.truncate else .error ⟨instant.iso⟩ := by
  simp only [parse, parseBy, trim_iso, Layout.chain, List.findSome?_cons, read?_spaced_iso valid,
    read?_lettered_iso valid, read?_dateOnly_iso valid, List.findSome?_nil, Option.map_none]
  split_ifs with inYear
  · have cut : Layout.offset.cut instant.lowered = instant.truncate := by
      rw [← inYear.truncate_eq]
      exact truncate_truncate instant
    simp only [read?_offset_iso valid inYear, Option.map_some, cut]
  · simp only [read?_offset_iso_of_distant inYear, Option.map_none]

end Instant

end TransactionLedger.Timestamp
