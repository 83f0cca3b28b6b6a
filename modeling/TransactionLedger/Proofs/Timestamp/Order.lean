import TransactionLedger.Proofs.Timestamp.Reading
import TransactionLedger.Proofs.Timestamp.Validity

/-!
# The order of stored times

Stored times are compared as texts. In the years that are written with four digits, all parts of a
stored time have a fixed width, and the order of the texts is that of the instants, to the
millisecond. The sign of any other year comes before all digits.
-/

namespace TransactionLedger.Timestamp.Instant

/-- The chronological order. A leap second comes behind the second that it belongs to. -/
instance : LT Instant :=
  ⟨fun instant other => instant.seconds < other.seconds ∨
    instant.seconds = other.seconds ∧ instant.nanos < other.nanos⟩

instance : LE Instant :=
  ⟨fun instant other => instant.seconds < other.seconds ∨
    instant.seconds = other.seconds ∧ instant.nanos ≤ other.nanos⟩

variable {instant other : Instant}

theorem lt_iff : instant < other ↔ instant.seconds < other.seconds ∨
    instant.seconds = other.seconds ∧ instant.nanos < other.nanos :=
  Iff.rfl

theorem le_iff : instant ≤ other ↔ instant.seconds < other.seconds ∨
    instant.seconds = other.seconds ∧ instant.nanos ≤ other.nanos :=
  Iff.rfl

instance (instant other : Instant) : Decidable (instant ≤ other) :=
  decidable_of_iff _ le_iff.symm

theorem not_lt : ¬ instant < other ↔ other ≤ instant := by
  rw [lt_iff, le_iff]
  omega

/-! ## The time of day -/

/-- The time of day comes before that of another instant. -/
def ClockBefore (instant other : Instant) : Prop :=
  instant.hour < other.hour ∨ instant.hour = other.hour ∧
    (instant.minute < other.minute ∨ instant.minute = other.minute ∧
      (instant.second < other.second ∨ instant.second = other.second ∧
        instant.milli < other.milli))

theorem secondOfDay_lt (instant : Instant) : instant.secondOfDay < 86400 := by
  simp only [secondOfDay, secondsPerDay]
  omega

theorem Valid.clock_lt (valid : instant.Valid) : instant.hour < 10 ^ 2 ∧ instant.minute < 10 ^ 2 ∧
    instant.second < 10 ^ 2 ∧ instant.milli < 10 ^ 3 := by
  have inDay := instant.secondOfDay_lt
  have nanosBound := valid.2.1
  simp only [hour, minute, second, milli, nanosPerSecond, nanosPerMilli] at nanosBound ⊢
  omega

theorem timeText_lt_iff (valid : instant.Valid) (otherValid : other.Valid) :
    instant.timeText < other.timeText ↔ instant.ClockBefore other := by
  rcases valid.clock_lt with ⟨hour, minute, second, milli⟩
  rcases otherValid.clock_lt with ⟨otherHour, otherMinute, otherSecond, otherMilli⟩
  simp only [timeText, List.append_assoc, List.cons_append]
  rw [Text.padded_append_lt_iff Nat.two_pos hour otherHour,
    Text.padded_append_lt_iff Nat.two_pos minute otherMinute,
    Text.padded_append_lt_iff Nat.two_pos second otherSecond,
    Text.padded_lt_padded_iff (Nat.succ_pos 2) milli otherMilli, ClockBefore]

/-- The second 60 belongs to the second before it, so the clock runs with the seconds of the day and
the nanoseconds in them. -/
theorem clockBefore_iff (valid : instant.Valid) (otherValid : other.Valid) :
    instant.ClockBefore other ↔ instant.secondOfDay < other.secondOfDay ∨
      instant.secondOfDay = other.secondOfDay ∧ instant.lowered.nanos < other.lowered.nanos := by
  have leap : ∀ {instant : Instant}, instant.Valid →
      instant.nanos < 2000000000 ∧ (1000000000 ≤ instant.nanos → instant.secondOfDay % 60 = 59) := by
    intro instant valid
    have last := valid.2.2
    have nanosBound := valid.2.1
    simp only [secondOfDay, secondsPerDay, nanosPerSecond] at last nanosBound ⊢
    omega
  rcases leap valid with ⟨bound, late⟩
  rcases leap otherValid with ⟨otherBound, otherLate⟩
  simp only [ClockBefore, hour, minute, second, milli, lowered, nanosPerSecond, nanosPerMilli]
  generalize instant.secondOfDay = clock at *
  generalize other.secondOfDay = otherClock at *
  generalize instant.nanos = nanos at *
  generalize other.nanos = otherNanos at *
  omega

/-! ## Stored times -/

/-- The instant lies in a year that is written with four digits. -/
def InFourDigitYear (instant : Instant) : Prop :=
  0 ≤ instant.date.year ∧ instant.date.year ≤ 9999

instance (instant : Instant) : Decidable instant.InFourDigitYear :=
  inferInstanceAs (Decidable (_ ∧ _))

theorem InFourDigitYear.seconds_lt (inYear : instant.InFourDigitYear) :
    instant.seconds < latest.seconds := by
  have days := (Scan.toDays_bounds (Date.valid_ofDays _) inYear.1 (Int.lt_add_one_of_le inYear.2)).2
  have last : latest.seconds = 8210266876799 := by decide
  rw [Date.toDays_ofDays, secondsPerDay] at days
  omega

theorem InFourDigitYear.truncate_eq (inYear : instant.InFourDigitYear) :
    instant.truncate = instant.lowered := by
  have early := inYear.seconds_lt
  rcases truncate_cases instant with dropped | ⟨-, behind⟩
  · exact dropped
  · omega

theorem toList_stored (inYear : instant.InFourDigitYear) : instant.stored.toList =
    Text.padded 4 instant.date.year.toNat ++ '-' :: (Text.padded 2 instant.date.month ++
      '-' :: (Text.padded 2 instant.date.day ++ ' ' :: instant.timeText)) := by
  have year : yearText instant.date.year = Text.padded 4 instant.date.year.toNat := if_pos inYear
  simp only [stored, String.toList_ofList, dateText, year, List.append_assoc, List.cons_append]

theorem date_lt (inYear : instant.InFourDigitYear) : instant.date.year.toNat < 10 ^ 4 ∧
    instant.date.month < 10 ^ 2 ∧ instant.date.day < 10 ^ 2 := by
  rcases Date.valid_ofDays (instant.seconds / secondsPerDay) with ⟨-, month, -, day⟩
  have length := Date.daysInMonth_le instant.date.year instant.date.month
  have inMonth : instant.date.day ≤ Date.daysInMonth instant.date.year instant.date.month := day
  have inYear := inYear.2
  refine ⟨by omega, ?_, by omega⟩
  exact Nat.lt_of_le_of_lt month (by decide)

theorem date_before_iff : instant.date.Before other.date ↔
    instant.seconds / secondsPerDay < other.seconds / secondsPerDay := by
  rw [date, date, ← Date.toDays_lt_iff (Date.valid_ofDays _) (Date.valid_ofDays _),
    Date.toDays_ofDays, Date.toDays_ofDays]

theorem date_eq_iff : instant.date = other.date ↔
    instant.seconds / secondsPerDay = other.seconds / secondsPerDay := by
  refine ⟨fun same => ?_, fun same => by rw [date, date, same]⟩
  rw [← Date.toDays_ofDays (instant.seconds / secondsPerDay),
    ← Date.toDays_ofDays (other.seconds / secondsPerDay)]
  exact congrArg Date.toDays same

/-- In the years of four digits, stored times are in chronological order. -/
theorem stored_lt_iff (valid : instant.Valid) (otherValid : other.Valid)
    (inYear : instant.InFourDigitYear) (otherInYear : other.InFourDigitYear) :
    instant.stored < other.stored ↔ instant.lowered < other.lowered := by
  rcases date_lt inYear with ⟨year, month, day⟩
  rcases date_lt otherInYear with ⟨otherYear, otherMonth, otherDay⟩
  have texts : instant.stored < other.stored ↔ instant.date.Before other.date ∨
      instant.date = other.date ∧ instant.ClockBefore other := by
    have least := inYear.1
    have otherLeast := otherInYear.1
    have earlier : instant.date.year.toNat < other.date.year.toNat ↔
        instant.date.year < other.date.year := by omega
    have sameYear : instant.date.year.toNat = other.date.year.toNat ↔
        instant.date.year = other.date.year := by omega
    have same : instant.date = other.date ↔ instant.date.year = other.date.year ∧
        instant.date.month = other.date.month ∧ instant.date.day = other.date.day := by
      rw [← Date.mk.injEq]
    rw [String.lt_iff, toList_stored inYear, toList_stored otherInYear,
      Text.padded_append_lt_iff (Nat.succ_pos 3) year otherYear,
      Text.padded_append_lt_iff Nat.two_pos month otherMonth,
      Text.padded_append_lt_iff Nat.two_pos day otherDay, timeText_lt_iff valid otherValid,
      Date.Before, earlier, sameYear, same]
    simp only [and_or_left, or_assoc, and_assoc]
  rw [texts, date_before_iff, date_eq_iff, clockBefore_iff valid otherValid, lt_iff]
  simp only [secondOfDay, lowered_seconds, secondsPerDay]
  omega

theorem stored_le_iff (valid : instant.Valid) (otherValid : other.Valid)
    (inYear : instant.InFourDigitYear) (otherInYear : other.InFourDigitYear) :
    instant.stored ≤ other.stored ↔ instant.lowered ≤ other.lowered := by
  rw [← String.not_lt, stored_lt_iff otherValid valid otherInYear inYear, not_lt]

/-- A year with a sign comes before all years of four digits, past and future alike. -/
theorem stored_lt_of_distant (distant : ¬ instant.InFourDigitYear)
    (otherInYear : other.InFourDigitYear) : instant.stored < other.stored := by
  rcases Scan.exists_padded_eq_cons 4 other.date.year.toNat with ⟨c, more, starts, digit⟩
  have year : yearText instant.date.year =
      (if instant.date.year < 0 then '-' else '+') :: Text.padded 4 instant.date.year.natAbs :=
    if_neg distant
  have sign : (if instant.date.year < 0 then '-' else '+') < c := by
    rw [Text.isDigit_iff] at digit
    split_ifs
    · exact Nat.lt_of_lt_of_le (show '-'.toNat < 48 by decide) digit.1
    · exact Nat.lt_of_lt_of_le (show '+'.toNat < 48 by decide) digit.1
  rw [String.lt_iff, toList_stored otherInYear, starts]
  simp only [stored, String.toList_ofList, dateText, year, List.cons_append]
  exact List.cons_lt_cons_iff.mpr (.inl sign)

end TransactionLedger.Timestamp.Instant
