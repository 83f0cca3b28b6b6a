import TransactionLedger.Sql.Statement
import TransactionLedger.Store.Entry
import TransactionLedger.Store.Planner

/-!
# Selecting entries

The entries whose rows pass a filter, in ascending order of their ids. Only the rows that the
planner lets the statement look at are judged. They are judged and their columns read one after the
other, and only when all are there are they made into entries.
-/

namespace TransactionLedger.Store

/-- The rows that pass a filter, as texts. -/
def matchingRows (filter : Filter) : List Row → Except Sql.SqlError (List TextRow)
  | [] => .ok []
  | row :: rest => do
    if ← filter.accepts row.value then
      let found ← row.texts
      return found :: (← matchingRows filter rest)
    else matchingRows filter rest

namespace Table

/-- The rows that are looked at. -/
def visited (table : Table) (planner : Planner) (filter : Filter) : List Row :=
  table.rows.filter (planner.visits filter)

/-- The entries whose rows pass a filter. -/
def select (table : Table) (planner : Planner) (filter : Filter) :
    Except StoreError (List Entry) := do
  let visited := table.visited planner filter
  let ahead := planner.judgedAhead filter visited
  let _ ← (ahead.mapM fun row => filter.accepts row.value).mapError .database
  let found ← (matchingRows filter visited).mapError .database
  found.mapM TextRow.entry

end Table

end TransactionLedger.Store
