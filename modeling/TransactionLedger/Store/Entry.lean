import TransactionLedger.Json.Shape
import TransactionLedger.Store.Error
import TransactionLedger.Store.Table

/-!
# Entries of the ledger

An entry is a row with its times and its payload read. Reading happens in two steps: first every
column must hold text, then the texts are read, the payload before the times.
-/

namespace TransactionLedger.Store

/-- A record in the ledger. -/
structure Entry where
  id : Int
  uniqueId : String
  insertTime : Timestamp.Instant
  eventTime : Timestamp.Instant
  eventType : String
  data : Json.Members
  deriving Repr

/-- A row whose columns hold text. -/
structure TextRow where
  id : Int
  uniqueId : String
  insertTimestamp : String
  eventTimestamp : String
  eventType : String
  data : String
  deriving DecidableEq, Repr

namespace Row

def columnText (column : Filter.Column) : Cell → Except Sql.SqlError String
  | .text value => .ok value
  | .bytes _ => .error (.bytesInColumn column.position column.name)

/-- The texts of a row, from the first column to the last. -/
def texts (row : Row) : Except Sql.SqlError TextRow := do
  let uniqueId ← columnText .uniqueId row.cells.uniqueId
  let insertTimestamp ← columnText .insertTimestamp row.cells.insertTimestamp
  let eventTimestamp ← columnText .eventTimestamp row.cells.eventTimestamp
  let eventType ← columnText .eventType row.cells.eventType
  let data ← columnText .data row.cells.data
  return { id := row.id, uniqueId, insertTimestamp, eventTimestamp, eventType, data }

end Row

namespace TextRow

def payload (row : TextRow) : Except StoreError Json.Members :=
  match Json.parse row.data with
  | .ok (.object members) => .ok members
  | .ok other =>
    .error (.corrupt ("record " ++ String.ofList (Text.decimalInt row.id) ++
      " has non-object data: " ++ other.render))
  | .error _ => .error (.unreadable "")

def entry (row : TextRow) : Except StoreError Entry := do
  let data ← row.payload
  let insertTime ← (Timestamp.Instant.parse row.insertTimestamp).mapError .storedTime
  let eventTime ← (Timestamp.Instant.parse row.eventTimestamp).mapError .storedTime
  return { id := row.id, uniqueId := row.uniqueId, insertTime, eventTime,
           eventType := row.eventType, data }

end TextRow

end TransactionLedger.Store
