import TransactionLedger.Proofs.Store.Planner
import TransactionLedger.Store.Database

/-!
# Selecting

A successful selection holds the entries of the rows that pass, each once and in the order of their
ids, whatever index is used. It succeeds if the rows that are looked at can be judged and those that
pass have entries.
-/

namespace TransactionLedger

open TransactionLedger.Filter

namespace Store

namespace Row

/-- The entry in a row. -/
def entry (row : Row) : Except StoreError Entry := do
  (← row.texts.mapError .database).entry

theorem columnText_eq_ok_iff {column : Column} {cell : Cell} {text : String} :
    columnText column cell = .ok text ↔ cell = .text text := by
  cases cell <;> simp [columnText]

theorem texts_eq_ok_iff {row : Row} {found : TextRow} :
    row.texts = .ok found ↔ found.id = row.id ∧ row.cells =
      ⟨.text found.uniqueId, .text found.insertTimestamp, .text found.eventTimestamp,
        .text found.eventType, .text found.data⟩ := by
  rcases row with ⟨id, uniqueId, insertTimestamp, eventTimestamp, eventType, data⟩
  rcases found with ⟨foundId, foundUniqueId, foundInsert, foundEvent, foundType, foundData⟩
  simp only [texts, bind_eq_ok_iff, columnText_eq_ok_iff, pure_eq_ok, Except.ok.injEq,
    TextRow.mk.injEq, Cells.mk.injEq]
  constructor
  · rintro ⟨_, rfl, _, rfl, _, rfl, _, rfl, _, rfl, rfl, rfl, rfl, rfl, rfl, rfl⟩
    exact ⟨rfl, rfl, rfl, rfl, rfl, rfl⟩
  · rintro ⟨rfl, rfl, rfl, rfl, rfl, rfl⟩
    exact ⟨_, rfl, _, rfl, _, rfl, _, rfl, _, rfl, rfl, rfl, rfl, rfl, rfl, rfl⟩

/-- What an entry says about its row. -/
theorem of_entry {row : Row} {entry : Entry} (decodes : row.entry = .ok entry) :
    entry.id = row.id ∧ row.cells.uniqueId = .text entry.uniqueId ∧
      row.cells.eventType = .text entry.eventType := by
  simp only [Row.entry, bind_eq_ok_iff, mapError_eq_ok_iff] at decodes
  rcases decodes with ⟨texts, textsFound, decodes⟩
  rcases texts_eq_ok_iff.mp textsFound with ⟨sameId, cells⟩
  simp only [TextRow.entry, bind_eq_ok_iff, pure_eq_ok, Except.ok.injEq] at decodes
  rcases decodes with ⟨data, -, insertTime, -, eventTime, -, rfl⟩
  simp [cells, sameId]

end Row

variable {filter : Filter} {planner : Planner}

theorem matchingRows_eq_ok_iff {rows : List Row} {found : List TextRow} :
    matchingRows filter rows = .ok found ↔
      (∀ row ∈ rows, filter.accepts row.value = .ok (filter.passes row.value)) ∧
        (rows.filter fun row => filter.passes row.value).mapM Row.texts = .ok found := by
  induction rows generalizing found with
  | nil => simp [matchingRows, eq_comm]
  | cons row rest ih =>
      simp only [matchingRows, List.forall_mem_cons]
      cases accepted : filter.accepts row.value with
      | error error => simp
      | ok holds =>
          have passes : filter.passes row.value = holds := passes_of_accepts accepted
          cases holds with
          | false => simp [passes, ih]
          | true =>
              simp only [ok_bind, if_pos, passes, List.filter_cons_of_pos, bind_eq_ok_iff, ih,
                mapM_cons_eq_ok_iff, pure_eq_ok, Except.ok.injEq, true_and]
              constructor
              · rintro ⟨first, texts, more, ⟨allAccepted, walked⟩, rfl⟩
                exact ⟨allAccepted, first, more, texts, walked, rfl⟩
              · rintro ⟨allAccepted, first, more, texts, walked, rfl⟩
                exact ⟨first, texts, more, ⟨allAccepted, walked⟩, rfl⟩

theorem Planner.mem_of_mem_judgedAhead {rows : List Row} {row : Row}
    (inside : row ∈ planner.judgedAhead filter rows) : row ∈ rows := by
  unfold judgedAhead at inside
  split at inside
  · split at inside
    · contradiction
    · exact List.mem_mergeSort.mp inside
  · contradiction

/-- All rows that pass are looked at. -/
theorem Table.filter_passes_visited (table : Table) :
    ((table.visited planner filter).filter fun row => filter.passes row.value) =
      table.rows.filter fun row => filter.passes row.value := by
  rw [visited, List.filter_filter]
  apply List.filter_congr
  intro row _
  rw [Bool.and_eq_left_iff_imp]
  exact Planner.visits_of_passes

/-- Without an index every row is looked at, in the order of the ids. -/
theorem Table.select_of_scan (scans : planner.indexFor? filter = none) (table : Table) :
    table.select planner filter =
      ((matchingRows filter table.rows).mapError .database >>= List.mapM TextRow.entry) := by
  have everyRow : table.visited planner filter = table.rows := by
    rw [visited, List.filter_eq_self]
    intro row _
    rw [Planner.visits, scans]
  have none : planner.judgedAhead filter table.rows = [] := by rw [Planner.judgedAhead, scans]
  simp only [select, everyRow, none]
  rfl

/-- A selection succeeds if every row that is looked at can be judged and every row that passes has
an entry. -/
theorem Table.select_eq_ok_iff {table : Table} {entries : List Entry} :
    table.select planner filter = .ok entries ↔
      (∀ row ∈ table.visited planner filter,
        filter.accepts row.value = .ok (filter.passes row.value)) ∧
        (table.rows.filter fun row => filter.passes row.value).mapM Row.entry = .ok entries := by
  have walks : (∃ texts,
      (table.rows.filter fun row => filter.passes row.value).mapM Row.texts = .ok texts ∧
        texts.mapM TextRow.entry = .ok entries) ↔
      (table.rows.filter fun row => filter.passes row.value).mapM Row.entry = .ok entries := by
    simp only [← mapM_mapError_eq_ok_iff StoreError.database]
    exact mapM_bind_eq_ok_iff
  simp only [select, bind_eq_ok_iff, mapError_eq_ok_iff, matchingRows_eq_ok_iff,
    filter_passes_visited, ← walks]
  constructor
  · rintro ⟨_, -, texts, ⟨accepted, found⟩, walked⟩
    exact ⟨accepted, texts, found, walked⟩
  · rintro ⟨accepted, texts, found, walked⟩
    have ahead : ∀ row ∈ planner.judgedAhead filter (table.visited planner filter),
        ∃ verdict, filter.accepts row.value = .ok verdict :=
      fun row inside => ⟨_, accepted row (Planner.mem_of_mem_judgedAhead inside)⟩
    rcases exists_mapM_of_forall ahead with ⟨verdicts, judged⟩
    exact ⟨verdicts, judged, texts, ⟨accepted, found⟩, walked⟩

/-- Where no row is looked at, no row passes. -/
theorem Table.select_of_unvisited {table : Table} (unvisited : table.visited planner filter = []) :
    (table.rows.filter fun row => filter.passes row.value) = [] ∧
      table.select planner filter = .ok [] := by
  have none : (table.rows.filter fun row => filter.passes row.value) = [] := by
    rw [← table.filter_passes_visited, unvisited, List.filter_nil]
  refine ⟨none, select_eq_ok_iff.mpr ⟨?_, ?_⟩⟩
  · rw [unvisited]
    exact fun row inside => absurd inside List.not_mem_nil
  · rw [none, mapM_nil_eq_ok_iff]

/-- A criterion whose search succeeds judges every row, be it looked at or not. -/
theorem Table.accepts_of_select_only {table : Table} {entries : List Entry} {search : Query.Search}
    {criterion : Query.Criterion} (asks : search.Asks criterion)
    (selected : table.select planner (ofSearch (search.only criterion)) = .ok entries) {row : Row}
    (inside : row ∈ table.rows) : (ofSearch (search.only criterion)).accepts row.value =
      .ok ((ofSearch (search.only criterion)).passes row.value) := by
  cases chosen : planner.indexFor? (ofSearch (search.only criterion)) with
  | none =>
      have looked : row ∈ table.visited planner (ofSearch (search.only criterion)) :=
        List.mem_filter.mpr ⟨inside, by rw [Planner.visits, chosen]⟩
      exact (select_eq_ok_iff.mp selected).1 row looked
  | some column =>
      rcases Planner.exists_accepts_of_indexFor? asks chosen row.value with ⟨verdict, judged⟩
      rw [passes_of_accepts judged, judged]

/-- Where every row has an entry and can be judged by it, the entries are filtered. -/
theorem Table.select_of_entries {table : Table} {entries : List Entry} {keep : Entry → Bool}
    (decodes : table.rows.mapM Row.entry = .ok entries)
    (judged : ∀ row ∈ table.rows, ∀ entry, row.entry = .ok entry →
      filter.accepts row.value = .ok (keep entry)) :
    table.select planner filter = .ok (entries.filter keep) := by
  rw [select_eq_ok_iff]
  constructor
  · intro row looked
    have inside := List.mem_of_mem_filter looked
    rcases exists_of_mem_mapM decodes inside with ⟨entry, decoded⟩
    rw [judged row inside entry decoded, passes_of_accepts (judged row inside entry decoded)]
  · apply mapM_filter decodes
    intro row inside entry decoded
    exact passes_of_accepts (judged row inside entry decoded)

theorem Table.mem_select_iff {table : Table} {entries : List Entry}
    (selected : table.select planner filter = .ok entries) {entry : Entry} :
    entry ∈ entries ↔
      ∃ row ∈ table.rows, filter.passes row.value = true ∧ row.entry = .ok entry := by
  rw [mem_mapM_iff (select_eq_ok_iff.mp selected).2]
  simp only [List.mem_filter, and_assoc]

/-- A row that passes has its entry among those selected. -/
theorem Table.exists_entry_of_passes {table : Table} {entries : List Entry} {row : Row}
    (selected : table.select planner filter = .ok entries) (inside : row ∈ table.rows)
    (passes : filter.passes row.value = true) : ∃ entry ∈ entries, row.entry = .ok entry := by
  have kept : row ∈ table.rows.filter fun row => filter.passes row.value :=
    List.mem_filter.mpr ⟨inside, passes⟩
  rcases exists_of_mem_mapM (select_eq_ok_iff.mp selected).2 kept with ⟨entry, decodes⟩
  refine ⟨entry, ?_, decodes⟩
  exact (mem_select_iff selected).mpr ⟨row, inside, passes, decodes⟩

/-- The entries are in the order of their ids, each once. -/
theorem Table.ascending_select {table : Table} {entries : List Entry}
    (selected : table.select planner filter = .ok entries) :
    entries.Pairwise fun earlier later => earlier.id < later.id := by
  have ids := mapM_map_eq Row.id Entry.id (select_eq_ok_iff.mp selected).2
    fun row entry decodes => (Row.of_entry decodes).1
  have rows := table.ascending.filter fun row => filter.passes row.value
  rw [← List.pairwise_map (f := Row.id) (R := (· < ·)), ← ids, List.pairwise_map] at rows
  exact rows

theorem Database.table_of_select {database : Database} {entries : List Entry}
    (selected : database.select filter = .ok entries) :
    ∃ table, database.table = .ok table ∧ table.select database.planner filter = .ok entries := by
  simp only [Database.select, bind_eq_ok_iff] at selected
  rcases selected with ⟨_, -, _, -, table, found, selected⟩
  exact ⟨table, found, selected⟩

theorem Database.select_of_table {database : Database} {table : Table}
    (reached : database.table = .ok table) (limits : filter.checkLimits = .ok ()) :
    database.select filter = table.select database.planner filter := by
  have opened : ∃ found, database.place.reach = .ok found := by
    rcases bind_eq_ok_iff.mp reached with ⟨found, opened, -⟩
    exact ⟨found, opened⟩
  rcases opened with ⟨found, opened⟩
  simp [Database.select, opened, limits, reached, Except.mapError]

/-- Where every row can be judged, the entries of the rows that pass are selected. -/
theorem Database.select_eq_ok_iff {database : Database} {table : Table} {keep : Row → Bool}
    {entries : List Entry} (reached : database.table = .ok table)
    (limits : filter.checkLimits = .ok ())
    (judged : ∀ row ∈ table.rows, filter.accepts row.value = .ok (keep row)) :
    database.select filter = .ok entries ↔
      (table.rows.filter keep).mapM Row.entry = .ok entries := by
  have passes : table.rows.filter (fun row => filter.passes row.value) =
      table.rows.filter keep := by
    apply List.filter_congr
    intro row inside
    exact passes_of_accepts (judged row inside)
  rw [select_of_table reached limits, Table.select_eq_ok_iff, passes]
  constructor
  · exact fun selected => selected.2
  · intro found
    refine ⟨?_, found⟩
    intro row looked
    have inside := List.mem_of_mem_filter looked
    rw [passes_of_accepts (judged row inside), judged row inside]

/-! ## Filters that judge alike -/

section Congruence

variable {other : Filter}

theorem matchingRows_congr {rows : List Row}
    (same : ∀ row ∈ rows, filter.accepts row.value = other.accepts row.value) :
    matchingRows filter rows = matchingRows other rows := by
  induction rows with
  | nil => rfl
  | cons row rest ih =>
      rcases List.forall_mem_cons.mp same with ⟨first, behind⟩
      simp only [matchingRows, first, ih behind]

/-- Filters whose statements can be read alike, that no index helps with and that judge every row
alike select the same. -/
theorem Database.select_congr (limits : filter.checkLimits = other.checkLimits)
    (untested : ∀ column, filter.keyTests column = [])
    (otherUntested : ∀ column, other.keyTests column = [])
    (same : ∀ row : Row, filter.accepts row.value = other.accepts row.value)
    (database : Database) : database.select filter = database.select other := by
  have scans := Planner.indexFor?_eq_none untested database.planner
  have otherScans := Planner.indexFor?_eq_none otherUntested database.planner
  have tables (table : Table) :
      table.select database.planner filter = table.select database.planner other := by
    rw [Table.select_of_scan scans, Table.select_of_scan otherScans,
      matchingRows_congr fun row _ => same row]
  simp only [select, limits, tables]

end Congruence

end Store

end TransactionLedger
