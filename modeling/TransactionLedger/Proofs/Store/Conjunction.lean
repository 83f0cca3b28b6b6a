import TransactionLedger.Proofs.Filter.Criteria
import TransactionLedger.Proofs.Store.Selection

/-!
# What a search finds

A search finds the entries that every one of its criteria finds on its own, in the order of their
ids. A search that asks for nothing finds every entry.
-/

namespace TransactionLedger.Store

open TransactionLedger.Filter Query Sql

theorem Table.row_unique {table : Table} {row other : Row} (inside : row ∈ table.rows)
    (otherInside : other ∈ table.rows) (same : row.id = other.id) : row = other := by
  have distinct : (table.rows.map Row.id).Nodup := by
    rw [List.Nodup, List.pairwise_map]
    exact table.ascending.imp fun less => Int.ne_of_lt less
  exact List.inj_on_of_nodup_map distinct inside otherInside same

variable {planner : Planner}

theorem Table.mem_select_ofSearch {table : Table} {search : Search} {found : List Entry}
    {single : Criterion → List Entry}
    (selected : table.select planner (ofSearch search) = .ok found)
    (singles : ∀ criterion, search.Asks criterion →
      table.select planner (ofSearch (search.only criterion)) = .ok (single criterion))
    {some : Criterion} (asksSome : search.Asks some) {entry : Entry} :
    entry ∈ found ↔ ∀ criterion, search.Asks criterion → entry ∈ single criterion := by
  have passes : ∀ row ∈ table.rows, ((ofSearch search).passes row.value = true ↔
      ∀ criterion, search.Asks criterion →
        (ofSearch (search.only criterion)).passes row.value = true) := by
    intro row inside
    apply passes_ofSearch
    intro criterion asks
    exact accepts_of_select_only asks (singles criterion asks) inside
  rw [mem_select_iff selected]
  constructor
  · rintro ⟨row, inside, passed, decodes⟩ criterion asks
    rw [mem_select_iff (singles criterion asks)]
    exact ⟨row, inside, (passes row inside).mp passed criterion asks, decodes⟩
  · intro everywhere
    rcases (mem_select_iff (singles some asksSome)).mp (everywhere some asksSome) with
      ⟨row, inside, -, decodes⟩
    refine ⟨row, inside, (passes row inside).mpr ?_, decodes⟩
    intro criterion asks
    rcases (mem_select_iff (singles criterion asks)).mp (everywhere criterion asks) with
      ⟨other, otherInside, passed, otherDecodes⟩
    have sameId := (Row.of_entry decodes).1.symm.trans (Row.of_entry otherDecodes).1
    rw [row_unique inside otherInside sameId]
    exact passed

theorem Table.select_of_asks_nothing {table : Table} {search : Search} {found : List Entry}
    (silent : ∀ criterion, ¬ search.Asks criterion)
    (selected : table.select planner (ofSearch search) = .ok found) :
    table.rows.mapM Row.entry = .ok found := by
  have everyRow : table.rows.filter (fun row => (ofSearch search).passes row.value) =
      table.rows := by
    rw [List.filter_eq_self]
    intro row inside
    apply passes_of_accepts
    rw [ofSearch_of_asks_nothing silent]
    rfl
  rw [← everyRow]
  exact (select_eq_ok_iff.mp selected).2

theorem Table.select_eventTypes {table : Table} {search : Search} {found : List Entry}
    (asks : search.Asks .eventTypes)
    (selected : table.select planner (ofSearch (search.only .eventTypes)) = .ok found) :
    (table.rows.filter fun row => ∃ type ∈ search.typeList,
      row.cells.eventType = .text type).mapM Row.entry = .ok found := by
  rw [← (select_eq_ok_iff.mp selected).2]
  congr 1
  apply List.filter_congr
  intro row inside
  rw [passes_of_accepts (accepts_eventTypes asks row.value)]
  congr
  cases cell : row.cells.eventType <;> simp [Row.value, cell, Cell.value]

/-- A search finds what each of its criteria finds on its own, every record once and in the order
of the ids; one that asks for nothing finds every record. The event types find the records with one
of the listed types. The text of the filter is read as the condition that is evaluated. -/
theorem select_ofSearch {database : Database} {search : Search} {found : List Entry}
    {single : Criterion → List Entry} (selected : database.select (ofSearch search) = .ok found)
    (singles : ∀ criterion, search.Asks criterion →
      database.select (ofSearch (search.only criterion)) = .ok (single criterion)) :
    (found.Pairwise fun earlier later => earlier.id < later.id) ∧
      ((∃ criterion, search.Asks criterion) → ∀ entry,
        entry ∈ found ↔ ∀ criterion, search.Asks criterion → entry ∈ single criterion) ∧
      ((∀ criterion, ¬ search.Asks criterion) → ∃ table, database.table = .ok table ∧
        table.rows.mapM Row.entry = .ok found) ∧
      (search.Asks .eventTypes → ∃ table, database.table = .ok table ∧
        (table.rows.filter fun row => ∃ type ∈ search.typeList,
          row.cells.eventType = .text type).mapM Row.entry = .ok (single .eventTypes)) ∧
      (∀ reading, Reads (ofSearch search).text reading ↔
        (ofSearch search).condition.map Condition.ungrouped = some reading) := by
  rcases Database.table_of_select selected with ⟨table, reached, tableSelected⟩
  have tableSingles : ∀ criterion, search.Asks criterion →
      table.select database.planner (ofSearch (search.only criterion)) =
        .ok (single criterion) := by
    intro criterion asks
    rcases Database.table_of_select (singles criterion asks) with ⟨other, otherReached, found⟩
    rw [reached] at otherReached
    rcases Except.ok.inj otherReached with rfl
    exact found
  refine ⟨Table.ascending_select tableSelected, ?_, ?_, ?_, fun reading => reads_ofSearch_iff⟩
  · rintro ⟨criterion, asks⟩ entry
    exact Table.mem_select_ofSearch tableSelected tableSingles asks
  · intro silent
    exact ⟨table, reached, Table.select_of_asks_nothing silent tableSelected⟩
  · intro asks
    exact ⟨table, reached, Table.select_eventTypes asks (tableSingles _ asks)⟩

/-! ## An example -/

/-- A row without payload data. -/
def sampleRow (id : Int) (uniqueId eventType : String) : Row where
  id := id
  cells := {
    uniqueId := .text uniqueId
    insertTimestamp := .text "2024-01-02 03:04:05.000"
    eventTimestamp := .text "2024-01-02 03:04:05.000"
    eventType := .text eventType
    data := .text "\x7b\x7d" }

/-- The entry of such a row. -/
def sampleEntry (id : Int) (uniqueId eventType : String) : Entry where
  id := id
  uniqueId := uniqueId
  insertTime := ⟨1704164645, 0⟩
  eventTime := ⟨1704164645, 0⟩
  eventType := eventType
  data := []

def sampleTable : Table where
  rows := [sampleRow 1 "tx-1" "payment", sampleRow 2 "tx-2" "payment", sampleRow 3 "tx-2" "refund"]
  largestId := 3
  ascending := by decide
  bounded := by decide

def sampleDatabase : Database where
  place := .present (some sampleTable)
  prepared := true

def sampleSearch : Search where
  idFragment := some "2"
  eventTypes := some ["payment", "order"]

/-- What the criteria of the search find on their own. -/
def sampleSingle : Criterion → List Entry
  | .id => [sampleEntry 2 "tx-2" "payment", sampleEntry 3 "tx-2" "refund"]
  | .eventTypes => [sampleEntry 1 "tx-1" "payment", sampleEntry 2 "tx-2" "payment"]
  | _ => []

theorem select_sampleSearch :
    sampleDatabase.select (ofSearch sampleSearch) = .ok [sampleEntry 2 "tx-2" "payment"] ∧
      ∀ entry, entry ∈ [sampleEntry 2 "tx-2" "payment"] ↔
        ∀ criterion, sampleSearch.Asks criterion → entry ∈ sampleSingle criterion := by
  have reached : sampleDatabase.table = .ok sampleTable := rfl
  have selected : sampleDatabase.select (ofSearch sampleSearch) =
      .ok [sampleEntry 2 "tx-2" "payment"] := by
    have judged : ∀ row ∈ sampleTable.rows, (ofSearch sampleSearch).accepts row.value =
        .ok ((ofSearch sampleSearch).passes row.value) := by
      simp only [sampleTable, List.forall_mem_cons]
      exact ⟨rfl, rfl, rfl, List.forall_mem_nil _⟩
    exact (Database.select_eq_ok_iff reached rfl judged).mpr rfl
  have singles : ∀ criterion, sampleSearch.Asks criterion →
      sampleDatabase.select (ofSearch (sampleSearch.only criterion)) =
        .ok (sampleSingle criterion) := by
    intro criterion asks
    have judged : ∀ row ∈ sampleTable.rows, (ofSearch (sampleSearch.only criterion)).accepts
        row.value = .ok ((ofSearch (sampleSearch.only criterion)).passes row.value) := by
      simp only [sampleTable, List.forall_mem_cons]
      cases criterion <;> exact ⟨rfl, rfl, rfl, List.forall_mem_nil _⟩
    cases criterion with
    | id => exact (Database.select_eq_ok_iff reached rfl judged).mpr rfl
    | eventTypes => exact (Database.select_eq_ok_iff reached rfl judged).mpr rfl
    | _ => exact absurd asks (by simp [Search.Asks, sampleSearch])
  have asksType : sampleSearch.Asks .eventTypes := by
    simp [Search.Asks, Search.typeList, sampleSearch]
  exact ⟨selected, (select_ofSearch selected singles).2.1 ⟨_, asksType⟩⟩

end TransactionLedger.Store
