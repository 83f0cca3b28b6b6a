import TransactionLedger.Timestamp.Calendar

/-!
# Instants

An instant is a number of seconds since the start of 1970 in universal time, and a number of
nanoseconds within the second. The second 59 of a minute may hold a leap second: its nanoseconds
then run from one to two billion.
-/

namespace TransactionLedger.Timestamp

/-- A point in time. -/
structure Instant where
  seconds : Int
  nanos : Nat
  deriving DecidableEq, Repr

def nanosPerSecond : Nat := 1000000000

def nanosPerMilli : Nat := 1000000

def secondsPerDay : Int := 86400

namespace Instant

/-- The date an instant falls on. -/
def date (instant : Instant) : Date :=
  Date.ofDays (instant.seconds / secondsPerDay)

def secondOfDay (instant : Instant) : Nat :=
  (instant.seconds % secondsPerDay).toNat

def hour (instant : Instant) : Nat := instant.secondOfDay / 3600

def minute (instant : Instant) : Nat := instant.secondOfDay / 60 % 60

/-- The second of the minute; a leap second is the second 60. -/
def second (instant : Instant) : Nat :=
  instant.secondOfDay % 60 + instant.nanos / nanosPerSecond

def milli (instant : Instant) : Nat :=
  instant.nanos % nanosPerSecond / nanosPerMilli

/-- The years of instants hold it, and a leap second is the last second of a minute. -/
def Valid (instant : Instant) : Prop :=
  instant.date.InRange ∧ instant.nanos < 2 * nanosPerSecond ∧
    (nanosPerSecond ≤ instant.nanos → instant.seconds % 60 = 59)

instance (instant : Instant) : Decidable instant.Valid :=
  inferInstanceAs (Decidable (_ ∧ _ ∧ _))

/-- The instant with the given seconds and nanoseconds, if there is one. -/
def ofUnix? (seconds : Int) (nanos : Nat) : Option Instant :=
  let instant : Instant := ⟨seconds, nanos⟩
  if instant.Valid then some instant else none

/-- The midnight that starts a date. -/
def midnight (date : Date) : Instant :=
  ⟨date.toDays * secondsPerDay, 0⟩

/-- The last instant of the years but for the leap second that may follow. -/
def latest : Instant :=
  ⟨(midnight ⟨Date.lastYear, 12, 31⟩).seconds + secondsPerDay - 1, nanosPerSecond - 1⟩

/-- The instant with other nanoseconds, unless that is behind the latest instant. -/
def withNanos? (instant : Instant) (nanos : Nat) : Option Instant :=
  if instant.seconds < latest.seconds ∨
      instant.seconds = latest.seconds ∧ nanos ≤ latest.nanos then
    some { instant with nanos }
  else none

/-- The instant lowered to a whole millisecond. -/
def lowered (instant : Instant) : Instant :=
  { instant with nanos := instant.nanos - instant.nanos % nanosPerMilli }

/-- Drops everything below a millisecond. The nanoseconds of a leap second behind the latest instant
cannot be changed and stay as they are. -/
def truncate (instant : Instant) : Instant :=
  (instant.withNanos? instant.lowered.nanos).getD instant

@[simp] theorem lowered_seconds (instant : Instant) :
    instant.lowered.seconds = instant.seconds := rfl

/-- Lowering twice is lowering once. -/
@[simp] theorem lowered_lowered (instant : Instant) : instant.lowered.lowered = instant.lowered := by
  have whole : (instant.nanos - instant.nanos % nanosPerMilli) % nanosPerMilli = 0 := by
    simp only [nanosPerMilli]
    omega
  simp [lowered, whole]

/-- Either everything below a millisecond is dropped, or the instant lies behind the latest one and
stays. -/
theorem truncate_cases (instant : Instant) :
    instant.truncate = instant.lowered ∨ instant.truncate = instant ∧
      (latest.seconds < instant.seconds ∨
        instant.seconds = latest.seconds ∧ latest.nanos < instant.lowered.nanos) := by
  simp only [truncate, withNanos?]
  split
  · exact .inl rfl
  · exact .inr ⟨rfl, by omega⟩

/-- Truncating twice is truncating once. -/
theorem truncate_truncate (instant : Instant) : instant.truncate.truncate = instant.truncate := by
  rcases truncate_cases instant with dropped | ⟨kept, -⟩
  · rw [dropped]
    rcases truncate_cases instant.lowered with again | ⟨again, -⟩
    · rw [again, lowered_lowered]
    · exact again
  · rw [kept, kept]

end Instant

end TransactionLedger.Timestamp
