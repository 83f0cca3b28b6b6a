import TransactionLedger.Timestamp.Calendar
import Mathlib.Tactic.IntervalCases

/-!
# Numbering the days

Every date of the calendar has its number and every number its date, in the same order. An era
splits into centuries, turns of four years, and years; the days of a year from March on split into
months.
-/

namespace TransactionLedger.Timestamp.Date

theorem isLeapYear_iff {year : Int} :
    isLeapYear year = true ↔ year % 4 = 0 ∧ (year % 100 ≠ 0 ∨ year % 400 = 0) := by
  simp [isLeapYear]

theorem daysInMonth_le (year : Int) (month : Nat) : daysInMonth year month ≤ 31 := by
  simp only [daysInMonth]
  split_ifs <;> omega

/-! ## The years of an era -/

/-- The days from the start of an era to the start of one of its years. -/
def yearStart (year : Int) : Int :=
  365 * year + year / 4 - year / 100

/-- The year of an era that a day falls in. -/
def eraYear (day : Int) : Int :=
  (day - day / 1460 + day / 36524 - day / 146096) / 365

/-- The place of a day in an era: the century, the turn of four years in it, the year in that, and
the day of the year. The last year of a turn has a leap day, unless it is the last of one of the
first three centuries. -/
structure EraPlace (century cycle year day : Int) : Prop where
  inEra : 0 ≤ century ∧ century < 4
  inCentury : 0 ≤ cycle ∧ cycle < 25
  inCycle : 0 ≤ year ∧ year < 4
  inYear : 0 ≤ day ∧ (day < 365 ∨ day = 365 ∧ year = 3 ∧ (cycle ≠ 24 ∨ century = 3))

section Era

variable {century cycle year day : Int}

theorem EraPlace.yearStart_eq (place : EraPlace century cycle year day) :
    yearStart (100 * century + 4 * cycle + year) =
      36524 * century + 1461 * cycle + 365 * year := by
  rcases place with ⟨⟨_, _⟩, ⟨_, _⟩, ⟨_, _⟩, _⟩
  simp only [yearStart]
  omega

theorem EraPlace.eraYear_eq (place : EraPlace century cycle year day) :
    eraYear (36524 * century + 1461 * cycle + 365 * year + day) =
      100 * century + 4 * cycle + year := by
  rcases place with ⟨⟨_, _⟩, ⟨_, _⟩, ⟨_, _⟩, _, dayMost⟩
  simp only [eraYear]
  generalize total : 36524 * century + 1461 * cycle + 365 * year + day = whole
  have cycles : whole / 1460 = 25 * century + cycle ∨
      whole / 1460 = 25 * century + cycle + 1 ∧ year = 3 := by
    omega
  have centuries : whole / 36524 - whole / 146096 = century := by
    rcases Int.lt_or_le whole 146096 with early | last
    · have inCentury : whole < 36524 * (century + 1) := by omega
      omega
    · omega
  rcases cycles with cycles | ⟨cycles, last⟩
  · omega
  · omega

theorem exists_eraPlace (least : 0 ≤ day) (most : day < daysPerEra) :
    ∃ century cycle year rest, EraPlace century cycle year rest ∧
      day = 36524 * century + 1461 * cycle + 365 * year + rest := by
  simp only [daysPerEra] at most
  have century : ∃ century, 0 ≤ century ∧ century < 4 ∧ 36524 * century ≤ day ∧
      (day < 36524 * (century + 1) ∨ century = 3) :=
    ⟨min (day / 36524) 3, by omega, by omega, by omega, by omega⟩
  rcases century with ⟨century, centuryLeast, centuryMost, started, notOver⟩
  have year : ∃ year, 0 ≤ year ∧ year < 4 ∧ 365 * year ≤ (day - 36524 * century) % 1461 ∧
      ((day - 36524 * century) % 1461 < 365 * (year + 1) ∨ year = 3) :=
    ⟨min ((day - 36524 * century) % 1461 / 365) 3, by omega, by omega, by omega, by omega⟩
  rcases year with ⟨year, yearLeast, yearMost, yearStarted, yearNotOver⟩
  refine ⟨century, (day - 36524 * century) / 1461, year,
    (day - 36524 * century) % 1461 - 365 * year, ⟨⟨centuryLeast, centuryMost⟩, ?_,
      ⟨yearLeast, yearMost⟩, ?_⟩, ?_⟩
  · omega
  · omega
  · omega

end Era

/-! ## Years that start in March -/

/-- The days from 1 March to the start of a month, where March is the month zero. -/
def monthStart (month : Int) : Int :=
  (153 * month + 2) / 5

/-- A date by its era, its year in the era, its month and its day, where years start in March and
March is the month zero. -/
def ofMarch (era year month day : Int) : Date :=
  let calendarMonth := if month < 10 then month + 3 else month - 9
  { year := if calendarMonth ≤ 2 then year + era * 400 + 1 else year + era * 400
    month := calendarMonth.toNat
    day := day.toNat }

section March

variable {era year month day : Int}

theorem toDays_ofMarch (inEra : 0 ≤ year ∧ year < 400) (inYear : 0 ≤ month ∧ month < 12)
    (positive : 0 < day) :
    (ofMarch era year month day).toDays =
      era * daysPerEra + (yearStart year + (monthStart month + day - 1)) - epochOffset := by
  have yearFrom : (if (ofMarch era year month day).month ≤ 2 then
      (ofMarch era year month day).year - 1 else (ofMarch era year month day).year) =
        year + era * 400 := by
    simp only [ofMarch]
    split_ifs <;> omega
  have monthFrom : (((ofMarch era year month day).month : Int) + 9) % 12 = month := by
    simp only [ofMarch]
    split_ifs <;> omega
  have dayFrom : ((ofMarch era year month day).day : Int) = day := by
    simp only [ofMarch]
    omega
  have eraFrom : (year + era * 400) / 400 = era := by omega
  have yearInEra : (year + era * 400) % 400 = year := by omega
  simp only [toDays, yearFrom, monthFrom, dayFrom, eraFrom, yearInEra, yearStart, monthStart]
  omega

/-- The length of a month, where years start in March and March is the month zero. A year ends with
the leap day of the next one. -/
def monthLength (year month : Int) : Int :=
  if month = 11 then (if isLeapYear (year + 1) then 29 else 28)
  else monthStart (month + 1) - monthStart month

theorem daysInMonth_ofMarch (era year day : Int) (inYear : 0 ≤ month ∧ month < 12) :
    (daysInMonth (ofMarch era year month day).year (ofMarch era year month day).month : Int) =
      monthLength year month := by
  have leap : isLeapYear (year + era * 400 + 1) = isLeapYear (year + 1) := by
    rw [Bool.eq_iff_iff, isLeapYear_iff, isLeapYear_iff]
    omega
  rcases inYear with ⟨monthLeast, monthMost⟩
  interval_cases month <;> simp [daysInMonth, ofMarch, monthLength, monthStart, leap]

/-- The place of a day in an era: the year, the month and the day, where years start in March. -/
structure MarchPlace (year month day : Int) : Prop where
  inEra : 0 ≤ year ∧ year < 400
  inYear : 0 ≤ month ∧ month < 12
  inMonth : 0 < day ∧ day ≤ monthLength year month

theorem MarchPlace.valid (place : MarchPlace year month day) :
    (ofMarch era year month day).Valid := by
  rcases place with ⟨-, inYear, positive, inMonth⟩
  have length := daysInMonth_ofMarch era year day inYear
  refine ⟨?_, ?_, ?_, ?_⟩
  · simp only [ofMarch]
    split_ifs <;> omega
  · simp only [ofMarch]
    split_ifs <;> omega
  · simp only [ofMarch]
    omega
  · have dayFrom : ((ofMarch era year month day).day : Int) = day := by
      simp only [ofMarch]
      omega
    omega

theorem MarchPlace.of_valid {date : Date} (valid : date.Valid) :
    ∃ era year month day, MarchPlace year month day ∧ date = ofMarch era year month day := by
  rcases valid with ⟨monthLeast, monthMost, dayLeast, dayMost⟩
  have shape : ∃ era year month, (0 ≤ year ∧ year < 400) ∧ (0 ≤ month ∧ month < 12) ∧
      date = ofMarch era year month date.day := by
    rcases date with ⟨year, month, day⟩
    simp only at monthLeast monthMost
    rcases Nat.lt_or_ge 2 month with late | early
    · refine ⟨year / 400, year % 400, month - 3, by omega, by omega, ?_⟩
      simp only [ofMarch, mk.injEq]
      split_ifs <;> omega
    · refine ⟨(year - 1) / 400, (year - 1) % 400, month + 9, by omega, by omega, ?_⟩
      simp only [ofMarch, mk.injEq]
      split_ifs <;> omega
  rcases shape with ⟨era, year, month, inEra, inYear, same⟩
  refine ⟨era, year, month, date.day, ⟨inEra, inYear, by omega, ?_⟩, same⟩
  rw [← daysInMonth_ofMarch era year date.day inYear, ← same]
  omega

theorem MarchPlace.month_eq (place : MarchPlace year month day) :
    (5 * (monthStart month + day - 1) + 2) / 153 = month := by
  rcases place with ⟨-, ⟨monthLeast, monthMost⟩, positive, inMonth⟩
  simp only [monthLength] at inMonth
  interval_cases month <;> simp only [monthStart] at inMonth ⊢
  all_goals (try split_ifs at inMonth) <;> omega

theorem MarchPlace.dayOfYear (place : MarchPlace year month day) :
    0 ≤ monthStart month + day - 1 ∧ (monthStart month + day - 1 < 365 ∨
      monthStart month + day - 1 = 365 ∧ isLeapYear (year + 1) = true) := by
  rcases place with ⟨-, ⟨monthLeast, monthMost⟩, positive, inMonth⟩
  refine ⟨by simp only [monthStart]; omega, ?_⟩
  simp only [monthLength] at inMonth
  rcases (by omega : month < 11 ∨ month = 11) with before | rfl
  · left
    rw [if_neg (by omega)] at inMonth
    simp only [monthStart] at inMonth ⊢
    omega
  · cases leap : isLeapYear (year + 1) <;> simp [leap, monthStart] at inMonth ⊢ <;> omega

theorem MarchPlace.eraPlace (place : MarchPlace year month day) :
    EraPlace (year / 100) (year % 100 / 4) (year % 4) (monthStart month + day - 1) := by
  have inEra := place.inEra
  rcases place.dayOfYear with ⟨dayLeast, dayMost⟩
  rw [isLeapYear_iff] at dayMost
  exact ⟨by omega, by omega, by omega, dayLeast, by omega⟩

theorem ofDays_eq (least : 0 ≤ day) (most : day < daysPerEra) :
    ofDays (era * daysPerEra + day - epochOffset) =
      ofMarch era (eraYear day) ((5 * (day - yearStart (eraYear day)) + 2) / 153)
        (day - yearStart (eraYear day) -
          monthStart ((5 * (day - yearStart (eraYear day)) + 2) / 153) + 1) := by
  have eraFrom : (era * daysPerEra + day) / daysPerEra = era := by
    simp only [daysPerEra] at most ⊢
    omega
  have dayFrom : (era * daysPerEra + day) % daysPerEra = day := by
    simp only [daysPerEra] at most ⊢
    omega
  simp only [ofDays, Int.sub_add_cancel, eraFrom, dayFrom]
  rfl

theorem MarchPlace.ofDays_eq (place : MarchPlace year month day) :
    ofDays (era * daysPerEra + (yearStart year + (monthStart month + day - 1)) - epochOffset) =
      ofMarch era year month day := by
  have start := place.eraPlace.yearStart_eq
  have yearFrom := place.eraPlace.eraYear_eq
  have whole : 100 * (year / 100) + 4 * (year % 100 / 4) + year % 4 = year := by omega
  rw [whole] at start yearFrom
  rw [← start] at yearFrom
  have inEra : 0 ≤ yearStart year + (monthStart month + day - 1) ∧
      yearStart year + (monthStart month + day - 1) < daysPerEra := by
    rcases place.eraPlace with ⟨_, _, _, _⟩
    simp only [start, daysPerEra]
    omega
  have dayOfYear : yearStart year + (monthStart month + day - 1) - yearStart year =
      monthStart month + day - 1 := by omega
  have dayFrom : monthStart month + day - 1 - monthStart month + 1 = day := by omega
  rw [Date.ofDays_eq inEra.1 inEra.2, yearFrom, dayOfYear, place.month_eq, dayFrom]

theorem exists_marchPlace (days : Int) : ∃ era year month day, MarchPlace year month day ∧
    days = era * daysPerEra + (yearStart year + (monthStart month + day - 1)) - epochOffset := by
  have least : 0 ≤ (days + epochOffset) % daysPerEra := by
    simp only [daysPerEra]
    omega
  have most : (days + epochOffset) % daysPerEra < daysPerEra := by
    simp only [daysPerEra]
    omega
  rcases exists_eraPlace least most with ⟨century, cycle, year, rest, place, split⟩
  have start := place.yearStart_eq
  rcases place with ⟨_, _, _, _, _⟩
  refine ⟨(days + epochOffset) / daysPerEra, 100 * century + 4 * cycle + year,
    (5 * rest + 2) / 153, rest - monthStart ((5 * rest + 2) / 153) + 1,
    ⟨by omega, by omega, ?_, ?_⟩, ?_⟩
  · simp only [monthStart]
    omega
  · simp only [monthLength, monthStart, isLeapYear_iff]
    split_ifs <;> omega
  · rw [start]
    have whole := Int.mul_ediv_add_emod (days + epochOffset) daysPerEra
    simp only [daysPerEra] at whole split ⊢
    omega

end March

/-! ## Dates and their numbers -/

theorem ofDays_toDays {date : Date} (valid : date.Valid) : ofDays date.toDays = date := by
  rcases MarchPlace.of_valid valid with ⟨era, year, month, day, place, rfl⟩
  rw [toDays_ofMarch place.inEra place.inYear place.inMonth.1, place.ofDays_eq]

theorem valid_ofDays (days : Int) : (ofDays days).Valid := by
  rcases exists_marchPlace days with ⟨era, year, month, day, place, rfl⟩
  rw [place.ofDays_eq]
  exact place.valid

theorem toDays_ofDays (days : Int) : (ofDays days).toDays = days := by
  rcases exists_marchPlace days with ⟨era, year, month, day, place, rfl⟩
  rw [place.ofDays_eq, toDays_ofMarch place.inEra place.inYear place.inMonth.1]

/-! ## The order of dates -/

/-- The date comes before another in the calendar. -/
def Before (date other : Date) : Prop :=
  date.year < other.year ∨ date.year = other.year ∧
    (date.month < other.month ∨ date.month = other.month ∧ date.day < other.day)

/-- The days from 1 March of the year zero to 1 March of a year. -/
def marchStart (year : Int) : Int :=
  365 * year + year / 4 - year / 100 + year / 400

theorem toDays_ofMarch_eq_marchStart {era year month day : Int} (inEra : 0 ≤ year ∧ year < 400) (inYear : 0 ≤ month ∧ month < 12)
    (positive : 0 < day) :
    (ofMarch era year month day).toDays =
      marchStart (400 * era + year) + (monthStart month + day - 1) - epochOffset := by
  rw [toDays_ofMarch inEra inYear positive]
  simp only [marchStart, yearStart, daysPerEra]
  omega

theorem marchStart_mono {year other : Int} (ordered : year ≤ other) :
    marchStart year ≤ marchStart other := by
  simp only [marchStart]
  omega

theorem MarchPlace.dayOfYear_lt {year month day : Int} (place : MarchPlace year month day)
    (era : Int) :
    marchStart (400 * era + year) + (monthStart month + day - 1) <
      marchStart (400 * era + year + 1) := by
  have dayOfYear := place.dayOfYear.2
  rw [isLeapYear_iff] at dayOfYear
  simp only [marchStart]
  omega

theorem MarchPlace.dayOfYear_lt_dayOfYear {year month day otherMonth otherDay : Int}
    (place : MarchPlace year month day) (otherPlace : MarchPlace year otherMonth otherDay)
    (before : month < otherMonth ∨ month = otherMonth ∧ day < otherDay) :
    monthStart month + day < monthStart otherMonth + otherDay := by
  rcases before with later | ⟨rfl, later⟩
  · have inMonth := place.inMonth.2
    have inYear := otherPlace.inYear
    have positive := otherPlace.inMonth.1
    rw [monthLength, if_neg (by omega)] at inMonth
    have ordered : monthStart (month + 1) ≤ monthStart otherMonth := by
      simp only [monthStart]
      omega
    omega
  · omega

theorem toDays_lt_toDays {date other : Date} (valid : date.Valid) (otherValid : other.Valid)
    (before : date.Before other) : date.toDays < other.toDays := by
  rcases MarchPlace.of_valid valid with ⟨era, year, month, day, place, rfl⟩
  rcases MarchPlace.of_valid otherValid with
    ⟨otherEra, otherYear, otherMonth, otherDay, otherPlace, rfl⟩
  have inEra := place.inEra
  have inYear := place.inYear
  have positive := place.inMonth.1
  have otherInEra := otherPlace.inEra
  have otherInYear := otherPlace.inYear
  have otherPositive := otherPlace.inMonth.1
  -- Counted from March, the months of a year stay in order.
  have march : 400 * era + year < 400 * otherEra + otherYear ∨ (era = otherEra ∧ year = otherYear) ∧
      (month < otherMonth ∨ month = otherMonth ∧ day < otherDay) := by
    simp only [Before, ofMarch] at before
    split_ifs at before <;> omega
  rw [toDays_ofMarch_eq_marchStart inEra inYear positive, toDays_ofMarch_eq_marchStart otherInEra otherInYear otherPositive]
  rcases march with later | ⟨⟨rfl, rfl⟩, later⟩
  · have yearEnd := place.dayOfYear_lt era
    have yearStart := marchStart_mono (Int.add_one_le_of_lt later)
    have dayOfYear := otherPlace.dayOfYear.1
    omega
  · have dayOfYear := place.dayOfYear_lt_dayOfYear otherPlace later
    omega

/-- Dates are ordered as their numbers. -/
theorem toDays_lt_iff {date other : Date} (valid : date.Valid) (otherValid : other.Valid) :
    date.toDays < other.toDays ↔ date.Before other := by
  refine ⟨fun less => ?_, toDays_lt_toDays valid otherValid⟩
  by_contra notBefore
  have cases : date = other ∨ other.Before date := by
    rcases date with ⟨year, month, day⟩
    rcases other with ⟨otherYear, otherMonth, otherDay⟩
    simp only [Before, mk.injEq] at notBefore ⊢
    omega
  rcases cases with rfl | before
  · omega
  · have more := toDays_lt_toDays otherValid valid before
    omega

end TransactionLedger.Timestamp.Date
