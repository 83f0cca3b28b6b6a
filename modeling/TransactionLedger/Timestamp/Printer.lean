import TransactionLedger.Timestamp.Instant
import TransactionLedger.Text.Digits

/-!
# Written timestamps

The two texts of an instant: the stored form `2024-03-09 14:05:07.042`, and the form that leaves the
ledger, `2024-03-09T14:05:07.042Z`. Both have milliseconds; anything finer is dropped.
-/

namespace TransactionLedger.Timestamp

/-- Four digits for the years 0 to 9999; a sign and at least four digits for all others. -/
def yearText (year : Int) : List Char :=
  if 0 ≤ year ∧ year ≤ 9999 then Text.padded 4 year.toNat
  else (if year < 0 then '-' else '+') :: Text.padded 4 year.natAbs

/-- Year, month and day with dashes between. -/
def dateText (date : Date) : List Char :=
  yearText date.year ++ '-' :: Text.padded 2 date.month ++ '-' :: Text.padded 2 date.day

namespace Instant

/-- Hours, minutes, seconds and milliseconds. -/
def timeText (instant : Instant) : List Char :=
  Text.padded 2 instant.hour ++ ':' :: Text.padded 2 instant.minute ++
    ':' :: Text.padded 2 instant.second ++ '.' :: Text.padded 3 instant.milli

/-- The stored form. -/
def stored (instant : Instant) : String :=
  String.ofList (dateText instant.date ++ ' ' :: instant.timeText)

/-- The form that leaves the ledger. -/
def iso (instant : Instant) : String :=
  String.ofList (dateText instant.date ++ 'T' :: instant.timeText ++ ['Z'])

end Instant

end TransactionLedger.Timestamp
