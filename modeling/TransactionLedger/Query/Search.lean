import TransactionLedger.Query.Expression
import TransactionLedger.Timestamp.Instant

/-!
# Searches

What a search asks for. Every part is optional, and a record must meet all parts that are present.
-/

namespace TransactionLedger.Query

/-- Bounds of a time, both inclusive. -/
structure TimeRange where
  earliest : Option Timestamp.Instant := none
  latest : Option Timestamp.Instant := none
  deriving DecidableEq, Repr

/-- A search for records. -/
structure Search where
  /-- A pattern that occurs in the record's id. -/
  idFragment : Option String := none
  /-- The event types to choose from. -/
  eventTypes : Option (List String) := none
  eventTime : Option TimeRange := none
  insertTime : Option TimeRange := none
  expression : Option Expression := none
  deriving Repr

end TransactionLedger.Query
