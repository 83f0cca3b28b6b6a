import TransactionLedger.Sql.Evaluation
import TransactionLedger.Store.Table

/-!
# Planning

Some columns of the record table have an index. Where a condition compares such a column with bound
values, the rows that can meet the comparison are found through the index, and no other row is
looked at. Which index is used, if any, is decided from the condition before its values are known.
The choice is the database's own; whatever it is, it decides which rows are judged and in which
order, but not which rows pass.
-/

namespace TransactionLedger

open TransactionLedger.Filter TransactionLedger.Sql

namespace Filter

def Operand.isPlaceholder : Operand → Bool
  | placeholder _ => true
  | _ => false

namespace Condition

/-- The parts of a condition that all have to hold. -/
def conjuncts : Condition → List Condition
  | both lhs rhs => lhs.conjuncts ++ rhs.conjuncts
  | group inner => inner.conjuncts
  | condition => [condition]

/-- The condition compares a column with bound values, in a way that an index can answer. -/
def isKeyTest (column : Column) : Condition → Bool
  | compare (.column which) relation rhs =>
    which == column && relation != .like && rhs.isPlaceholder
  | oneOf (.column which) choices => which == column && choices.all Operand.isPlaceholder
  | _ => false

/-- The tests of a column that an index on it can answer. -/
def keyTests (column : Column) (condition : Condition) : List Condition :=
  condition.conjuncts.filter (isKeyTest column)

/-- At most one value meets the test. -/
def isPin : Condition → Bool
  | compare _ .equal _ => true
  | oneOf _ [_] => true
  | _ => false

end Condition

/-- The tests of a column. -/
def keyTests (filter : Filter) (column : Column) : List Condition :=
  filter.condition.elim [] (Condition.keyTests column)

/-- The row meets the tests of a column. -/
def meetsKey (filter : Filter) (column : Column) (row : Column → Value) : Bool :=
  (filter.keyTests column).all fun test => passes ⟨some test, filter.values⟩ row

end Filter

namespace Store

/-- The column has an index. -/
def isIndexed : Column → Bool
  | .uniqueId => true
  | .eventTimestamp => true
  | .eventType => true
  | _ => false

/-- The choice of an index, or of none, for every condition. Only an index that answers a test of
the condition is chosen. -/
structure Planner where
  index? : Condition → Option Column
  indexed : ∀ {condition column}, index? condition = some column → isIndexed column = true
  tested : ∀ {condition column}, index? condition = some column → condition.keyTests column ≠ []

namespace Planner

/-- The usual choice: an exact id comes before event types, and these before two bounds of the event
time. -/
def usual : Planner where
  index? condition :=
    if condition.keyTests .uniqueId ≠ [] then some .uniqueId
    else if condition.keyTests .eventType ≠ [] then some .eventType
    else if 1 < (condition.keyTests .eventTimestamp).length then some .eventTimestamp
    else none
  indexed := by
    intro condition column chosen
    split at chosen
    · exact Option.some.inj chosen ▸ rfl
    · split at chosen
      · exact Option.some.inj chosen ▸ rfl
      · split at chosen
        · exact Option.some.inj chosen ▸ rfl
        · contradiction
  tested := by
    intro condition column chosen
    split at chosen
    · exact Option.some.inj chosen ▸ ‹_›
    · split at chosen
      · exact Option.some.inj chosen ▸ ‹_›
      · split at chosen
        · exact Option.some.inj chosen ▸ List.ne_nil_of_length_pos (Nat.zero_lt_of_lt ‹_›)
        · contradiction

/-- The index through which a filter is answered. -/
def indexFor? (planner : Planner) (filter : Filter) : Option Column :=
  filter.condition.bind planner.index?

/-- The row is looked at: the index leads to it, or there is no index in use. -/
def visits (planner : Planner) (filter : Filter) (row : Row) : Bool :=
  match planner.indexFor? filter with
  | some column => filter.meetsKey column row.value
  | none => true

/-- Rows in the order of an index: by the values of the column, and rows with the same value by
their ids. -/
def keyOrder (column : Column) (rows : List Row) : List Row :=
  rows.mergeSort fun earlier later =>
    (earlier.value column).order? (later.value column) != some .gt

/-- The rows that are judged before the first one is read. The rows of an index with several values
do not come in the order of their ids, so they have to be sorted, and all of them are needed for
that. -/
def judgedAhead (planner : Planner) (filter : Filter) (rows : List Row) : List Row :=
  match planner.indexFor? filter with
  | some column => if (filter.keyTests column).any Condition.isPin then [] else keyOrder column rows
  | none => []

end Planner

end Store

end TransactionLedger
