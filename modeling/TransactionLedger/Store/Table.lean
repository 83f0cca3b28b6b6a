import TransactionLedger.Filter.Column
import TransactionLedger.Sql.Error
import TransactionLedger.Sql.Value
import TransactionLedger.Timestamp.Printer

/-!
# The record table

The rows of the ledger in ascending order of their ids. A new row gets the number after the largest
id that the table has ever held, so no id is given twice, even after rows have been deleted. The
order of the rows and the bound on their ids are part of the table.
-/

namespace TransactionLedger.Store

/-- What a column holds. -/
inductive Cell
  | text (value : String)
  | bytes (value : List UInt8)
  deriving DecidableEq, Repr

/-- The cell as a value of the database. -/
def Cell.value : Cell → Sql.Value
  | text value => .text value
  | bytes value => .blob value

/-- The cells of a row, without its id. -/
structure Cells where
  uniqueId : Cell
  insertTimestamp : Cell
  eventTimestamp : Cell
  eventType : Cell
  data : Cell
  deriving DecidableEq, Repr

/-- A row. -/
structure Row where
  id : Int
  cells : Cells
  deriving DecidableEq, Repr

/-- The value of a column in a row. -/
def Row.value (row : Row) : Filter.Column → Sql.Value
  | .transactionRecordId => .integer row.id
  | .uniqueId => row.cells.uniqueId.value
  | .insertTimestamp => row.cells.insertTimestamp.value
  | .eventTimestamp => row.cells.eventTimestamp.value
  | .eventType => row.cells.eventType.value
  | .data => row.cells.data.value

/-- The record table. -/
structure Table where
  rows : List Row
  /-- The largest id so far. -/
  largestId : Int
  ascending : rows.Pairwise fun earlier later => earlier.id < later.id
  bounded : ∀ row ∈ rows, row.id ≤ largestId
  deriving DecidableEq, Repr

namespace Table

def empty : Table :=
  ⟨[], 0, .nil, fun _ inside => nomatch inside⟩

/-- The largest id that a row can have. -/
def idLimit : Int := 0x7FFFFFFFFFFFFFFF

/-- Puts a row in its place. -/
def place (row : Row) : List Row → List Row
  | [] => [row]
  | other :: rest => if row.id < other.id then row :: other :: rest else other :: place row rest

theorem mem_place {row other : Row} {rows : List Row} :
    other ∈ place row rows ↔ other = row ∨ other ∈ rows := by
  induction rows with
  | nil => simp [place]
  | cons first rest ih =>
    simp only [place]
    split
    · simp
    · simp only [List.mem_cons, ih]
      exact or_left_comm

/-- A row with a new id keeps the order. -/
theorem ascending_place {row : Row} {rows : List Row}
    (ascending : rows.Pairwise fun earlier later => earlier.id < later.id)
    (fresh : ∀ other ∈ rows, other.id ≠ row.id) :
    (place row rows).Pairwise fun earlier later => earlier.id < later.id := by
  induction rows with
  | nil => simp [place]
  | cons first rest ih =>
    rcases List.pairwise_cons.1 ascending with ⟨least, restAscending⟩
    have firstFresh := fresh first (by simp)
    simp only [place]
    split
    · rename_i before
      refine List.pairwise_cons.2 ⟨?_, ascending⟩
      intro other inside
      rcases List.mem_cons.1 inside with rfl | inside
      · exact before
      · exact Int.lt_trans before (least other inside)
    · rename_i behind
      have restFresh : ∀ other ∈ rest, other.id ≠ row.id :=
        fun other inside => fresh other (List.mem_cons_of_mem _ inside)
      refine List.pairwise_cons.2 ⟨?_, ih restAscending restFresh⟩
      intro other inside
      rcases mem_place.1 inside with rfl | inside
      · omega
      · exact least other inside

/-- Adds a row with a given id. -/
def insertAt (table : Table) (id : Int) (cells : Cells) : Except Sql.SqlError Table :=
  if taken : table.rows.any fun row => row.id == id then
    .error (.duplicateKey (Filter.tableName ++ "." ++ Filter.Column.transactionRecordId.name))
  else
    .ok {
      rows := place ⟨id, cells⟩ table.rows
      largestId := max table.largestId id
      ascending := ascending_place table.ascending (by simpa using taken)
      bounded := by
        intro row inside
        rcases mem_place.1 inside with rfl | inside
        · exact Int.le_max_right _ _
        · exact Int.le_trans (table.bounded row inside) (Int.le_max_left _ _) }

/-- Adds a row under the next id, and gives the id back. -/
def append (table : Table) (cells : Cells) : Except Sql.SqlError (Table × Int) :=
  if idLimit ≤ table.largestId then .error .exhausted
  else
    let id := table.largestId + 1
    .ok ({
      rows := table.rows ++ [⟨id, cells⟩]
      largestId := id
      ascending := by
        refine List.pairwise_append.2 ⟨table.ascending, List.pairwise_singleton _ _, ?_⟩
        intro row inside last isLast
        have bound := table.bounded row inside
        simp only [List.mem_singleton] at isLast
        subst isLast
        exact Int.lt_add_one_of_le bound
      bounded := by
        intro row inside
        rcases List.mem_append.1 inside with inside | inside
        · exact Int.le_add_one (table.bounded row inside)
        · simp only [List.mem_singleton] at inside
          exact Int.le_of_eq (by rw [inside]) }, id)

/-- Removes the row with an id, and counts it. -/
def delete (table : Table) (id : Int) : Table × Nat :=
  let rest := table.rows.filter fun row => row.id != id
  ({ table with
      rows := rest
      ascending := table.ascending.filter _
      bounded := fun row inside => table.bounded row (List.mem_filter.1 inside).1 },
    table.rows.length - rest.length)

end Table

end TransactionLedger.Store
