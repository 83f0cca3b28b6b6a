/-!
# Columns

The columns of the record table, in the order in which they are selected.
-/

namespace TransactionLedger.Filter

/-- A column of the record table. -/
inductive Column
  | transactionRecordId
  | uniqueId
  | insertTimestamp
  | eventTimestamp
  | eventType
  | data
  deriving DecidableEq, Repr

def tableName : String := "transactionRecord"

namespace Column

def all : List Column :=
  [transactionRecordId, uniqueId, insertTimestamp, eventTimestamp, eventType, data]

def name : Column → String
  | transactionRecordId => "transactionRecordId"
  | uniqueId => "uniqueId"
  | insertTimestamp => "insertTimestamp"
  | eventTimestamp => "eventTimestamp"
  | eventType => "eventType"
  | data => "data"

/-- The column's position among the selected ones. -/
def position : Column → Nat
  | transactionRecordId => 0
  | uniqueId => 1
  | insertTimestamp => 2
  | eventTimestamp => 3
  | eventType => 4
  | data => 5

/-- A column stands at its position. -/
theorem getElem?_position (column : Column) : all[column.position]? = some column := by
  cases column <;> rfl

/-- The list of columns that a statement selects. -/
def selectList : String :=
  ", ".intercalate (all.map name)

end Column

end TransactionLedger.Filter
