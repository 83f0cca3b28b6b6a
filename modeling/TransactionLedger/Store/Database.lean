import TransactionLedger.Store.Selection

/-!
# The database

The database lives in a directory that may be missing or blocked by a file, and holds the record
table once it has been made. A database that is opened for later use makes the directory and the
table at its first successful check; it remembers that this is done, and then a check only asks
whether the table can be reached. A check runs in stages, and what a stage has done stays done when
a later one fails.
-/

namespace TransactionLedger.Store

/-- The place of the database. -/
inductive Place
  /-- There is no directory. -/
  | missing
  /-- A file stands where the directory should be. -/
  | blocked
  /-- The directory is there, with the table or without it. -/
  | present (table : Option Table)
  deriving DecidableEq, Repr

/-- A database. -/
structure Database where
  place : Place
  /-- The directory and the table have been made. -/
  prepared : Bool
  /-- Its choice of indexes. -/
  planner : Planner := .usual

/-- An action on the database: it may fail, and it may change the database. -/
abbrev Action (α : Type) := Database → Except StoreError α × Database

namespace Place

/-- The place once the directory has been made. -/
def makeDirectory : Place → Except StoreError Place
  | missing => .ok (present none)
  | blocked => .error .fileExists
  | present table => .ok (present table)

/-- What a database in the place holds, if it can be opened; it may lack the table. -/
def reach : Place → Except StoreError (Option Table)
  | missing => .error .unreachable
  | blocked => .error .unreachable
  | present table => .ok table

/-- The place once the table has been made; an existing table stays as it is. -/
def makeTable (place : Place) : Except StoreError Place := do
  return present (some ((← place.reach).getD .empty))

end Place

namespace Database

/-- The database has no table yet. -/
def missingTable : StoreError :=
  .database (.missingTable Filter.tableName)

/-- A database whose directory and table are made at once. -/
def create (place : Place) (planner : Planner := .usual) : Except StoreError Database := do
  return { place := ← (← place.makeDirectory).makeTable, prepared := true, planner }

/-- A database whose directory and table are made at the first successful check. -/
def deferred (place : Place) (planner : Planner := .usual) : Database :=
  { place, prepared := false, planner }

/-- The table of a database that can be reached. -/
def table (database : Database) : Except StoreError Table := do
  match ← database.place.reach with
  | some table => return table
  | none => .error missingTable

end Database

/-- A stage of a check. -/
inductive CheckStage
  | directory
  | table
  /-- Remembers that the directory and the table have been made. -/
  | mark
  | query
  deriving DecidableEq, Repr

namespace CheckStage

def perform (database : Database) : CheckStage → Except StoreError Database
  | directory => do return { database with place := ← database.place.makeDirectory }
  | table => do return { database with place := ← database.place.makeTable }
  | mark => .ok { database with prepared := true }
  | query => do
    let _ ← database.table
    return database

/-- Performs stages one after the other, up to the first that fails. -/
def performAll : List CheckStage → Action Unit
  | [], database => (.ok (), database)
  | stage :: rest, database =>
    match stage.perform database with
    | .ok database => performAll rest database
    | .error error => (.error error, database)

/-- The stages of a check. Once the table has been made, only the query is left. -/
def ahead (database : Database) : List CheckStage :=
  if database.prepared then [query] else [directory, table, mark, query]

end CheckStage

namespace Database

/-- Whether the table can be reached. The first successful check makes the directory and the
table. -/
def check : Action Unit := fun database =>
  CheckStage.performAll (CheckStage.ahead database) database

/-- Changes the table. -/
def modify {α : Type} (change : Table → Except Sql.SqlError (Table × α)) : Action α :=
  fun database =>
    match database.table with
    | .error error => (.error error, database)
    | .ok table =>
      match change table with
      | .error error => (.error (.database error), database)
      | .ok (table, result) => (.ok result, { database with place := .present (some table) })

/-- Adds a row under the next id. -/
def append (cells : Cells) : Action Int :=
  modify fun table => table.append cells

def insertAt (id : Int) (cells : Cells) : Action Int :=
  modify fun table => do return (← table.insertAt id cells, id)

/-- Removes the row with an id. -/
def delete (id : Int) : Action Nat :=
  modify fun table => .ok (table.delete id)

/-- The entries that pass a filter. The database is reached before the statement is read, and the
statement is read before the table is looked for. -/
def select (database : Database) (filter : Filter) : Except StoreError (List Entry) := do
  let _ ← database.place.reach
  filter.checkLimits.mapError .database
  (← database.table).select database.planner filter

/-- Removes the file that blocks the place of the directory. -/
def unblock (database : Database) : Database :=
  match database.place with
  | .blocked => { database with place := .missing }
  | _ => database

end Database

end TransactionLedger.Store
