import Mathlib
import TransactionLedger.Proofs.Filter.Criteria
import TransactionLedger.Proofs.Record.RecordDocument
import TransactionLedger.Proofs.Store.Conjunction
import TransactionLedger.Proofs.Store.Growth
import TransactionLedger.Proofs.Timestamp.WrittenForms
import TransactionLedger.Record.Operations

/-!
# The ledger as a log

The ledger is a log to which every successful creation adds one record. A history holds the records
of the log with its id, and a search that asks for nothing holds the whole log, both in the order in
which the records were created.
-/

namespace TransactionLedger.Record

open Json Store Timestamp

/-! ## Runs -/

/-- What can be asked of the ledger. A creation happens at some instant. -/
inductive Request
  | create (document : RecordDocument) (now : Instant)
  | history (id : String)
  | search (document : SearchDocument)

/-- What the ledger answers. -/
inductive Answer
  | created (outcome : Except OperationError RecordDocument)
  | found (outcome : Except OperationError (List RecordDocument))

/-- Answers a request. -/
def Request.perform : Request → Database → Answer × Database
  | create document now, database =>
    (.created (Record.create document now database).1, (Record.create document now database).2)
  | history id, database => (.found (Record.history id database), database)
  | search document, database => (.found (Record.search document database), database)

/-- Answers requests one after the other. -/
def run : List Request → Database → List Answer × Database
  | [], database => ([], database)
  | request :: rest, database =>
    ((request.perform database).1 :: (run rest (request.perform database).2).1,
      (run rest (request.perform database).2).2)

/-- The record that an answer says is new. -/
def Answer.record? : Answer → Option RecordDocument
  | created (.ok document) => some document
  | _ => none

/-- The records that a run creates, in the order of the answers. -/
def createdRecords (answers : List Answer) : List RecordDocument :=
  answers.filterMap Answer.record?

/-- A whole number that a document can hold. -/
def IsWholeNumber : Json.Number → Prop
  | .integer value => IsInteger value
  | .real _ => False

/-- A creation is accepted if its record can be read from a document and has whole numbers only. -/
def Request.Accepted : Request → Prop
  | create document now =>
    (∃ text, RecordDocument.parse text = .ok document) ∧
      (object document.data).EveryNumber IsWholeNumber ∧ now.Valid
  | _ => True

/-- The record of a creation can be read from a document, and the clock shows a valid time. -/
def Request.Sound : Request → Prop
  | create document now => (∃ text, RecordDocument.parse text = .ok document) ∧ now.Valid
  | _ => True

/-- The request without the id and the insert time that the caller states. -/
def Request.anonymous : Request → Request
  | create document now =>
    create { document with transactionRecordId := none, insertTimestamp := none } now
  | request => request

/-- The document without the insert time. -/
def RecordDocument.withoutInsertTime (document : RecordDocument) : RecordDocument :=
  { document with insertTimestamp := none }

/-- The document with its data as they are read from their text. -/
def RecordDocument.recalled (document : RecordDocument) : RecordDocument :=
  { document with data := rereadMembers document.data }

/-! ## What is stored can be read -/

theorem readable_of_isWholeNumber {number : Json.Number} (whole : IsWholeNumber number) :
    number.Readable := by
  cases number with
  | integer value => exact Number.readable_integer whole
  | real value => exact whole.elim

/-- A new row has its entry, with the data that is read back from its text. -/
theorem entry_newCells_of_legible (id : Int) (uniqueId eventType : String)
    {eventTime now : Instant} {data : Members}
    (wellFormed : (object data).WellFormed Node.nestingLimit)
    (legible : (object data).EveryNumber Number.Legible) (eventValid : eventTime.Valid)
    (nowValid : now.Valid) :
    Row.entry ⟨id, newCells uniqueId eventTime eventType data now⟩ =
      .ok ⟨id, uniqueId, now.lowered, eventTime.lowered, eventType, rereadMembers data⟩ := by
  have payload := parse_render_legible wellFormed legible
  rw [reread] at payload
  simp [Row.entry, Row.texts, Row.columnText, newCells, TextRow.entry, TextRow.payload, payload,
    Instant.parse_stored eventValid, Instant.parse_stored nowValid, Except.mapError]

/-! ## The log in the table -/

/-- The record of an entry, without the insert time. -/
def recordOf (entry : Entry) : RecordDocument :=
  (RecordDocument.ofEntry entry).withoutInsertTime

/-- Every row of the database can be read, and the records in the rows are the log. -/
def Holds (database : Database) (log : List RecordDocument) : Prop :=
  ∃ table entries, database.table = .ok table ∧ table.rows.mapM Row.entry = .ok entries ∧
    entries.map recordOf = log

/-- The records are those of the log, with insert times and in ascending order of their ids. -/
def ListsLog (found log : List RecordDocument) : Prop :=
  found.map RecordDocument.withoutInsertTime = log ∧ ∃ ids : List Int,
    found.map RecordDocument.transactionRecordId = ids.map some ∧ ids.Pairwise (· < ·)

/-- A creation that succeeds adds its record to the log, with its data as they are read from their
text; one that fails leaves the log as it is. -/
theorem Holds.create_recalled {database : Database} {log : List RecordDocument}
    {document : RecordDocument} {now : Instant} (holds : Holds database log)
    (sound : (Request.create document now).Sound) :
    Holds (create document now database).2
      (log ++ ((Answer.created (create document now database).1).record?.map
        RecordDocument.recalled).toList) := by
  rcases holds with ⟨table, entries, reached, decodes, rfl⟩
  rcases sound with ⟨⟨text, parsed⟩, nowValid⟩
  have unchanged : Holds database (entries.map recordOf ++ []) := by
    rw [List.append_nil]
    exact ⟨table, entries, reached, decodes, rfl⟩
  unfold Record.create
  split
  · exact unchanged
  · rename_i eventTime timeRead
    have eventValid := (Instant.valid_of_parse (mapError_eq_ok_iff.mp timeRead)).1
    rcases append_cases reached
      (newCells document.uniqueId eventTime document.eventType document.data now) with
      ⟨error, failed⟩ | ⟨id, behind, after, added, afterReached, rows, -⟩
    · simp only [append, failed]
      exact unchanged
    · simp only [append, added]
      have decoded := entry_newCells_of_legible id document.uniqueId document.eventType
        (RecordDocument.wellFormed_of_parse parsed) (RecordDocument.legible_of_parse parsed)
        eventValid nowValid
      refine ⟨behind, entries ++ [⟨id, document.uniqueId, now.lowered, eventTime.lowered,
        document.eventType, rereadMembers document.data⟩], afterReached, ?_, ?_⟩
      · rw [rows]
        exact mapM_append_singleton decodes decoded
      · simp [recordOf, RecordDocument.ofEntry, RecordDocument.withoutInsertTime, Answer.record?,
          RecordDocument.created, RecordDocument.recalled, Instant.iso_lowered]

theorem createdRecords_cons (request : Request) (rest : List Request) (database : Database) :
    createdRecords (run (request :: rest) database).1 =
      (request.perform database).1.record?.toList ++
        createdRecords (run rest (request.perform database).2).1 := by
  cases found : (request.perform database).1.record? <;>
    simp [run, createdRecords, found]

theorem holds_run_recalled {requests : List Request} {database : Database}
    {log : List RecordDocument} (holds : Holds database log)
    (sound : ∀ request ∈ requests, request.Sound) :
    Holds (run requests database).2
      (log ++ (createdRecords (run requests database).1).map RecordDocument.recalled) := by
  induction requests generalizing database log with
  | nil => simpa [run, createdRecords] using holds
  | cons request rest ih =>
      rcases List.forall_mem_cons.mp sound with ⟨first, others⟩
      have next : Holds (request.perform database).2
          (log ++ ((request.perform database).1.record?.map RecordDocument.recalled).toList) := by
        cases request with
        | create document now => exact holds.create_recalled first
        | history id => simpa [Request.perform, Answer.record?] using holds
        | search document => simpa [Request.perform, Answer.record?] using holds
      have later := ih next others
      rw [List.append_assoc] at later
      rw [createdRecords_cons, List.map_append, ← Option.toList_map]
      exact later

theorem data_of_create {document created : RecordDocument} {now : Instant} {database : Database}
    (succeeds : (create document now database).1 = .ok created) : created.data = document.data := by
  unfold create at succeeds
  split at succeeds
  · contradiction
  · split at succeeds
    · contradiction
    · rcases Except.ok.inj succeeds with rfl
      rfl

/-- A record that a run has created has the data of some creation. -/
theorem exists_create_of_mem {requests : List Request} {database : Database}
    {created : RecordDocument} (inside : created ∈ createdRecords (run requests database).1) :
    ∃ document now, Request.create document now ∈ requests ∧ created.data = document.data := by
  induction requests generalizing database with
  | nil => contradiction
  | cons request rest ih =>
      rw [createdRecords_cons, List.mem_append] at inside
      rcases inside with first | later
      · rw [Option.mem_toList] at first
        cases request with
        | create document now =>
            cases outcome : (create document now database).1 with
            | error error => simp [Request.perform, outcome, Answer.record?] at first
            | ok other =>
                have same : other = created := by
                  simpa [Request.perform, outcome, Answer.record?] using first
                exact ⟨document, now, List.mem_cons_self, same ▸ data_of_create outcome⟩
        | history id => contradiction
        | search document => contradiction
      · rcases ih later with ⟨document, now, listed, data⟩
        exact ⟨document, now, List.mem_cons_of_mem _ listed, data⟩

theorem recalled_of_isWholeNumber {document : RecordDocument}
    (whole : (object document.data).EveryNumber IsWholeNumber) : document.recalled = document := by
  have readable := EveryNumber.imp (fun _ => readable_of_isWholeNumber) _ whole
  rw [RecordDocument.recalled, rereadMembers_of_readable document.data readable]

theorem holds_run {requests : List Request} {database : Database} {log : List RecordDocument}
    (holds : Holds database log) (accepted : ∀ request ∈ requests, request.Accepted) :
    Holds (run requests database).2 (log ++ createdRecords (run requests database).1) := by
  have sound : ∀ request ∈ requests, request.Sound := by
    intro request inside
    cases request with
    | create document now => exact ⟨(accepted _ inside).1, (accepted _ inside).2.2⟩
    | history id => trivial
    | search document => trivial
  have recalled : ∀ created ∈ createdRecords (run requests database).1,
      created.recalled = created := by
    intro created inside
    rcases exists_create_of_mem inside with ⟨document, now, listed, data⟩
    apply recalled_of_isWholeNumber
    rw [data]
    exact (accepted _ listed).2.1
  have held := holds_run_recalled holds sound
  rwa [List.map_congr_left recalled, List.map_id'] at held

/-! ## What is found -/

theorem listsLog_of_entries {entries : List Entry}
    (ascending : entries.Pairwise fun earlier later => earlier.id < later.id) :
    ListsLog (entries.map RecordDocument.ofEntry) (entries.map recordOf) := by
  refine ⟨by simp [recordOf], entries.map Entry.id, ?_, List.pairwise_map.mpr ascending⟩
  simp only [List.map_map]
  rfl

/-- A selection that judges records by what the log says of them lists a part of the log. -/
theorem Holds.documents {database : Database} {log : List RecordDocument}
    (holds : Holds database log) {filter : Filter} (keep : RecordDocument → Bool)
    (limits : filter.checkLimits = .ok ())
    (judged : ∀ row entry, Row.entry row = .ok entry →
      filter.accepts row.value = .ok (keep (recordOf entry))) :
    ∃ found, documents filter database = .ok found ∧ ListsLog found (log.filter keep) := by
  rcases holds with ⟨table, entries, reached, decodes, rfl⟩
  have selected : table.select database.planner filter =
      .ok (entries.filter fun entry => keep (recordOf entry)) :=
    Table.select_of_entries decodes fun row _ entry => judged row entry
  refine ⟨(entries.filter fun entry => keep (recordOf entry)).map RecordDocument.ofEntry, ?_, ?_⟩
  · simp [Record.documents, Database.select_of_table reached limits, selected]
  · rw [List.filter_map]
    exact listsLog_of_entries (Table.ascending_select selected)

theorem checkLimits_ofId (id : String) : (Filter.ofId id).checkLimits = .ok () := by
  simp [Filter.checkLimits, Filter.ofId, Filter.names, Filter.withinDepth, Filter.Condition.demands,
    Filter.Operand.demands, Filter.Operand.placeholders, Filter.depthLimit, Filter.variableLimit]

theorem Holds.history {database : Database} {log : List RecordDocument}
    (holds : Holds database log) (id : String) :
    ∃ found, history id database = .ok found ∧
      ListsLog found (log.filter fun document => document.uniqueId = id) := by
  apply holds.documents (fun document => document.uniqueId = id) (checkLimits_ofId id)
  intro row entry decoded
  rcases Row.of_entry decoded with ⟨-, uniqueId, -⟩
  rw [Filter.accepts_ofId, Except.ok.injEq, decide_eq_decide]
  simp [Row.value, uniqueId, Cell.value, recordOf, RecordDocument.ofEntry,
    RecordDocument.withoutInsertTime]

/-- A range without bounds. -/
def RangeDocument.IsOpen (range : RangeDocument) : Prop :=
  range.earliest = none ∧ range.latest = none

/-- The document asks for nothing. -/
structure SearchDocument.IsEmpty (document : SearchDocument) : Prop where
  uniqueIdLike : ∀ fragment ∈ document.uniqueIdLike, fragment = ""
  eventTypes : ∀ types ∈ document.eventTypes, types = []
  eventTimestamp : ∀ range ∈ document.eventTimestamp, range.IsOpen
  insertTimestamp : ∀ range ∈ document.insertTimestamp, range.IsOpen
  expression : document.dataQueryExpression = none

theorem readRange_of_isOpen (field : String) {range : Option RangeDocument}
    (isOpen : ∀ bounds ∈ range, bounds.IsOpen) :
    readRange field range = .ok (range.map fun _ => ⟨none, none⟩) := by
  cases range with
  | none => rfl
  | some bounds =>
      rcases isOpen bounds rfl with ⟨earliest, latest⟩
      simp [readRange, readBound, earliest, latest]

theorem SearchDocument.IsEmpty.filter {document : SearchDocument} (empty : document.IsEmpty) :
    ∃ search, document.toSearch = .ok search ∧ Filter.ofSearch search = Filter.everything := by
  rcases empty with ⟨uniqueIdLike, eventTypes, eventTimestamp, insertTimestamp, expression⟩
  refine ⟨⟨document.uniqueIdLike, document.eventTypes,
    document.eventTimestamp.map fun _ => ⟨none, none⟩,
    document.insertTimestamp.map fun _ => ⟨none, none⟩, none⟩, ?_, ?_⟩
  · simp [SearchDocument.toSearch, readRange_of_isOpen _ eventTimestamp,
      readRange_of_isOpen _ insertTimestamp, expression, readExpression]
  · apply Filter.ofSearch_of_asks_nothing
    intro criterion
    cases criterion with
    | id => cases fragment : document.uniqueIdLike <;> simp_all [Query.Search.Asks]
    | eventTypes =>
        cases types : document.eventTypes <;> simp_all [Query.Search.Asks, Query.Search.typeList]
    | _ => simp [Query.Search.Asks, Option.bind_map]

theorem Holds.search {database : Database} {log : List RecordDocument}
    (holds : Holds database log) {document : SearchDocument} (empty : document.IsEmpty) :
    ∃ found, Record.search document database = .ok found ∧ ListsLog found log := by
  rcases empty.filter with ⟨query, converted, everything⟩
  have limits : Filter.everything.checkLimits = .ok () := rfl
  have all := holds.documents (fun _ => true) limits fun row entry _ => rfl
  rw [List.filter_true] at all
  simpa [Record.search, converted, everything, Except.mapError] using all

/-! ## The ledger -/

theorem run_append (front back : List Request) (database : Database) :
    run (front ++ back) database =
      ((run front database).1 ++ (run back (run front database).2).1,
        (run back (run front database).2).2) := by
  induction front generalizing database with
  | nil => rfl
  | cons request front ih => simp [run, ih]

theorem perform_anonymous (request : Request) : request.anonymous.perform = request.perform := by
  cases request <;> rfl

/-- A run does not depend on the ids and the insert times that callers state. -/
theorem run_map_anonymous (requests : List Request) (database : Database) :
    run (requests.map Request.anonymous) database = run requests database := by
  induction requests generalizing database with
  | nil => rfl
  | cons request rest ih => simp only [List.map_cons, run, perform_anonymous, ih]

/-- The ledger is an append-only log. After any accepted requests on a table that was empty, a
history and a search that asks for nothing succeed. The history of an id lists, of the records that
the creations before it have given back, those with exactly this id; the search lists all of them.
The ids and insert times that callers state change no answer and no row. -/
theorem run_is_log {requests : List Request} {database : Database} {table : Table}
    (reached : database.table = .ok table) (empty : table.rows = [])
    (accepted : ∀ request ∈ requests, request.Accepted) :
    (∀ id, ∃ found,
      (run (requests ++ [.history id]) database).1 =
          (run requests database).1 ++ [.found (.ok found)] ∧
        ListsLog found ((createdRecords (run requests database).1).filter
          fun document => document.uniqueId = id)) ∧
      (∀ document : SearchDocument, document.IsEmpty → ∃ found,
        (run (requests ++ [.search document]) database).1 =
            (run requests database).1 ++ [.found (.ok found)] ∧
          ListsLog found (createdRecords (run requests database).1)) ∧
      ∀ others : List Request, others.map Request.anonymous = requests.map Request.anonymous →
        run others database = run requests database := by
  have start : Holds database [] := ⟨table, [], reached, by simp [empty], rfl⟩
  have holds := holds_run start accepted
  rw [List.nil_append] at holds
  refine ⟨?_, ?_, ?_⟩
  · intro id
    rcases holds.history id with ⟨found, succeeds, lists⟩
    exact ⟨found, by simp [run_append, run, Request.perform, succeeds], lists⟩
  · intro document isEmpty
    rcases holds.search isEmpty with ⟨found, succeeds, lists⟩
    exact ⟨found, by simp [run_append, run, Request.perform, succeeds], lists⟩
  · intro others same
    rw [← run_map_anonymous others, same, run_map_anonymous]

/-! ## An example -/

def samplePayment : RecordDocument where
  transactionRecordId := none
  uniqueId := "tx-1"
  insertTimestamp := none
  eventTimestamp := "2024-01-02"
  eventType := "payment"
  data := [("amount", .number (.integer 5))]

/-- The same payment is recorded twice. -/
def sampleRequests : List Request :=
  [.create samplePayment ⟨1704164645, 0⟩, .create samplePayment ⟨1704164646, 0⟩]

def emptyLedger : Database where
  place := .present (some .empty)
  prepared := true

def sampleRecord (id : Int) : RecordDocument :=
  { samplePayment with
    transactionRecordId := some id, eventTimestamp := "2024-01-02T00:00:00.000Z" }

theorem run_sampleRequests :
    (∀ request ∈ sampleRequests, request.Accepted) ∧ ∃ found,
      (run (sampleRequests ++ [.history "tx-1"]) emptyLedger).1 =
          (run sampleRequests emptyLedger).1 ++ [.found (.ok found)] ∧
        ListsLog found [sampleRecord 1, sampleRecord 2] := by
  have parsed : RecordDocument.parse ("\x7b\"uniqueId\":\"tx-1\"," ++
      "\"eventTimestamp\":\"2024-01-02\",\"eventType\":\"payment\"," ++
      "\"data\":\x7b\"amount\":5\x7d\x7d") = .ok samplePayment := by
    cbv
  have whole : (object samplePayment.data).EveryNumber IsWholeNumber :=
    ⟨by simp [EveryNumber, IsWholeNumber, IsInteger], trivial⟩
  have accepted : ∀ request ∈ sampleRequests, request.Accepted := by
    simp only [sampleRequests, List.forall_mem_cons]
    exact ⟨⟨⟨_, parsed⟩, whole, by decide⟩, ⟨⟨_, parsed⟩, whole, by decide⟩, by simp⟩
  have log : createdRecords (run sampleRequests emptyLedger).1 =
      [sampleRecord 1, sampleRecord 2] := by
    cbv
  have reached : emptyLedger.table = .ok .empty := rfl
  rcases (run_is_log reached rfl accepted).1 "tx-1" with ⟨found, answered, lists⟩
  rw [log] at lists
  exact ⟨accepted, found, answered, lists⟩

end TransactionLedger.Record
