import TransactionLedger.Sql.Error
import TransactionLedger.Timestamp.Parser

/-!
# Errors of the store

What can go wrong between a request to the store and its answer.
-/

namespace TransactionLedger.Store

/-- An error of the store. -/
inductive StoreError
  | database (error : Sql.SqlError)
  /-- The database cannot be opened. -/
  | unreachable
  /-- A stored payload is no JSON document. -/
  | unreadable (detail : String)
  /-- A stored time is no timestamp. -/
  | storedTime (error : Timestamp.TimestampError)
  /-- A stored payload is not an object. -/
  | corrupt (detail : String)
  /-- Work for the store ended early. -/
  | task (detail : String)
  /-- The directory of the database cannot be made. -/
  | io (detail : String)
  deriving DecidableEq, Repr

namespace StoreError

def message : StoreError → String
  | database error => "SQLite error: " ++ error.message
  | unreachable => "Connection pool error: "
  | unreadable detail => "Serialization error: " ++ detail
  | storedTime error => "Corrupt timestamp column: " ++ error.message
  | corrupt detail => "Corrupt data: " ++ detail
  | task detail => "Task error: " ++ detail
  | io detail => "IO error: " ++ detail

/-- A file stands where the directory should be. -/
def fileExists : StoreError :=
  io "File exists (os error 17)"

end StoreError

end TransactionLedger.Store
