import TransactionLedger.Proofs.Http.AppendOnly
import TransactionLedger.Proofs.Http.Target

/-!
# Records that can be read back

A record that has been created is in the history of its id from then on. Its history is requested
under the id as it is written into a target, which works for every id but the empty one and
`search`, whose target leads to the searches.
-/

namespace TransactionLedger

open Json Store

/-! ## Tables that can be read -/

namespace Store

/-- Every row of the table has an entry. -/
def Table.Readable (table : Table) : Prop :=
  ∀ row ∈ table.rows, ∃ entry, row.entry = .ok entry

theorem Cell.value_eq_text_iff {cell : Cell} {text : String} :
    cell.value = .text text ↔ cell = .text text := by
  cases cell <;> simp [Cell.value]

theorem Database.exists_select_ofId {database : Database} {table : Table}
    (reached : database.table = .ok table) (readable : table.Readable) (id : String) :
    ∃ entries, database.select (.ofId id) = .ok entries ∧
      (table.rows.filter fun row => row.cells.uniqueId = .text id).mapM Row.entry = .ok entries := by
  have judged : ∀ row ∈ table.rows, (Filter.ofId id).accepts row.value =
      .ok (decide (row.cells.uniqueId = .text id)) := by
    intro row _
    rw [Filter.accepts_ofId, Except.ok.injEq, decide_eq_decide]
    exact Cell.value_eq_text_iff
  have decodes : ∀ row ∈ table.rows.filter (fun row => row.cells.uniqueId = .text id),
      ∃ entry, row.entry = .ok entry :=
    fun row inside => readable row (List.mem_of_mem_filter inside)
  rcases exists_mapM_of_forall decodes with ⟨entries, walked⟩
  exact ⟨entries, (select_eq_ok_iff reached (Record.checkLimits_ofId id) judged).mpr walked, walked⟩

end Store

namespace Http

open Record

theorem Adds.mem_rows {context : Context} {request : Request} {response : Response}
    {earlier later : Table} {document : RecordDocument} {event : Timestamp.Instant} {id : Int}
    (adds : Adds context request response earlier later document event id) :
    newRow context document event id ∈ later.rows := by
  rw [adds.rows]
  exact List.mem_append_right _ List.mem_cons_self

/-- The entry of a record that has been created has its data as they are read from their text. -/
theorem Adds.entry {context : Context} {request : Request} {response : Response}
    {earlier later : Table} {document : RecordDocument} {event : Timestamp.Instant} {id : Int}
    (adds : Adds context request response earlier later document event id)
    (clock : context.now.Valid) :
    (newRow context document event id).entry =
      .ok ⟨id, document.uniqueId, context.now.lowered, event.lowered, document.eventType,
        rereadMembers document.data⟩ := by
  have read := Request.read_of_readBody adds.read
  have valid := (Timestamp.Instant.valid_of_parse adds.time).1
  rw [newRow, entry_newCells_of_legible _ _ _ (RecordDocument.wellFormed_of_read read)
    (RecordDocument.legible_of_read read) valid clock]

theorem kept_readable {requests : List (Context × Request)}
    (clocks : ∀ arrival ∈ requests, arrival.1.now.Valid) : Kept Table.Readable requests := by
  intro arrival inside response earlier later document event id adds readable row present
  rw [adds.rows, List.mem_append, List.mem_singleton] at present
  rcases present with before | rfl
  · exact readable row before
  · exact ⟨_, adds.entry (clocks arrival inside)⟩

def Request.AsksHistory (request : Request) (id : String) : Prop :=
  request.method = "GET" ∧ request.target = historyTarget id

/-- The answer lists the records of the table with an id. -/
def Response.ListsHistory (response : Response) (table : Table) (id : String)
    (entries : List Entry) : Prop :=
  response.status = 200 ∧
    response.body = (listJson (entries.map RecordDocument.ofEntry)).render ∧
    (table.rows.filter fun row => row.cells.uniqueId = .text id).mapM Row.entry = .ok entries

/-- A history is answered for every id but the empty one and the name of the searches. -/
theorem Request.AsksHistory.answered {request : Request} {id : String}
    (asks : request.AsksHistory id) (nonempty : id ≠ "") (other : id ≠ "search")
    {database : Database} {table : Table} (reached : database.table = .ok table)
    (readable : table.Readable) (context : Context) :
    ∃ entries, (respond context request database).1.ListsHistory table id entries := by
  rcases asks with ⟨method, target⟩
  have reaches : request.Reaches "GET" (.history (percentEncoded id)) :=
    ⟨method, by rw [target, ofPath?_historyTarget nonempty other]⟩
  rcases Database.exists_select_ofId reached readable id with ⟨entries, selected, walked⟩
  refine ⟨entries, ?_, ?_, walked⟩
  · rw [respond_eq_carryOut, plan_of_history reaches (segmentText?_percentEncoded id),
      Plan.carryOut, Function.comp_apply, status_complete, selected]
    rfl
  · rw [respond_eq_carryOut, plan_of_history reaches (segmentText?_percentEncoded id),
      Plan.carryOut, Function.comp_apply, body_complete reaches (by decide), selected]
    rfl

/-- A later question for the history of a record that an exchange has created is answered with a
list that holds the record under the id that was given for it. -/
def Exchange.Recalled (creation question : Exchange) : Prop :=
  creation.Creates → ∀ document,
    creation.request.readBody creation.context.maxBodySize RecordDocument.read = .ok document →
      document.uniqueId ≠ "" → document.uniqueId ≠ "search" →
        question.request.AsksHistory document.uniqueId →
          ∃ table entries, question.before.table = .ok table ∧
            question.response.ListsHistory table document.uniqueId entries ∧
            ∃ event, Timestamp.Instant.parse document.eventTimestamp = .ok event ∧
              ∃ entry ∈ entries,
                creation.response.body = (document.created entry.id event).render ∧
                recordOf entry = { document.created entry.id event with
                  data := rereadMembers document.data }

/-- Where every row can be read and the clock shows valid times, whatever requests come in, a record
that has been created is in every later history of its id, unless the id is empty or `search`. -/
theorem histories_recall {database : Database} {table : Table} {requests : List (Context × Request)}
    (reached : database.table = .ok table) (readable : table.Readable)
    (clocks : ∀ arrival ∈ requests, arrival.1.now.Valid) :
    (serve database requests).Pairwise Exchange.Recalled := by
  refine pairwise_serve reached readable (kept_readable clocks) ?_
  intro creation question earlier later behind last inside spans spansQuestion grown held creates
    document read nonempty other asks
  rcases spans.step with ⟨-, sent, event, id, adds⟩ | ⟨unchanged, -⟩
  · have same : sent = document := Except.ok.inj (adds.read.symm.trans read)
    subst same
    rcases asks.answered nonempty other spansQuestion.reached held question.context with
      ⟨entries, lists⟩
    rw [← spansQuestion.response] at lists
    have decoded := adds.entry (clocks (creation.context, creation.request) inside)
    have kept : newRow creation.context sent event id ∈ behind.rows.filter fun row =>
        row.cells.uniqueId = .text sent.uniqueId :=
      List.mem_filter.mpr ⟨grown.subset adds.mem_rows, decide_eq_true rfl⟩
    have listed := (mem_mapM_iff lists.2.2).mpr ⟨_, kept, decoded⟩
    refine ⟨behind, entries, spansQuestion.reached, lists, event, adds.time, _, listed, adds.answer,
      ?_⟩
    simp only [recordOf, RecordDocument.ofEntry, RecordDocument.withoutInsertTime,
      Timestamp.Instant.iso_lowered]
    rfl
  · exact absurd creates unchanged

/-! ## Examples -/

theorem related_of_pairwise {related : Exchange → Exchange → Prop} {database : Database}
    {context : Context} {first second : Request} {rest : List (Context × Request)}
    (pairwise : (serve database ((context, first) :: (context, second) :: rest)).Pairwise related) :
    related (.answer context first database)
      (.answer context second (respond context first database).2) :=
  List.rel_of_pairwise_cons pairwise (mem_serve_cons context second rest _)

def historyRequest (id : String) : Request where
  method := "GET"
  target := historyTarget id
  headers := []
  body := []

def paymentWithId (uniqueId : String) : RecordDocument :=
  { samplePayment with uniqueId }

/-- An id with a slash and with a letter of two bytes. -/
theorem histories_recall_slash : ∃ table entries,
    (Exchange.answer sampleContext (historyRequest "a/ü") (respond sampleContext
      (creation (paymentWithId "a/ü")) emptyLedger).2).response.ListsHistory table "a/ü" entries ∧
    ∃ entry ∈ entries, entry.uniqueId = "a/ü" := by
  have reached : emptyLedger.table = .ok .empty := rfl
  have readable : Table.empty.Readable := by simp [Table.Readable, Table.empty]
  have clock : sampleContext.now.Valid := by decide
  have small : (creation (paymentWithId "a/ü")).body.length ≤ sampleContext.maxBodySize := by cbv
  have parsed : RecordDocument.parse (paymentWithId "a/ü").render = .ok (paymentWithId "a/ü") := by
    cbv
  have time : Timestamp.Instant.parse (paymentWithId "a/ü").eventTimestamp = .ok ⟨1704153600, 0⟩ := by
    cbv
  have clocks : ∀ arrival ∈ [(sampleContext, creation (paymentWithId "a/ü")),
      (sampleContext, historyRequest "a/ü")], arrival.1.now.Valid := by
    simp [clock]
  have recalled := related_of_pairwise (histories_recall reached readable clocks)
  rcases recalled (creates_creation small parsed time) _ (readBody_creation small parsed) (by decide)
    (by decide) ⟨rfl, rfl⟩ with ⟨table, entries, -, lists, event, -, entry, inside, -, same⟩
  exact ⟨table, entries, lists, entry, inside, congrArg RecordDocument.uniqueId same⟩

/-- The target of `search` leads to the searches, so its history is refused. -/
theorem search_not_recalled :
    (historyRequest "search").target = "/transactionRecords/search" ∧
      (Exchange.answer sampleContext (creation (paymentWithId "search")) emptyLedger).Creates ∧
      (creation (paymentWithId "search")).readBody sampleContext.maxBodySize RecordDocument.read =
        .ok (paymentWithId "search") ∧
      ∀ database,
        (respond sampleContext (historyRequest "search") database).1.status = 405 := by
  have small : (creation (paymentWithId "search")).body.length ≤ sampleContext.maxBodySize := by cbv
  have parsed : RecordDocument.parse (paymentWithId "search").render =
      .ok (paymentWithId "search") := by
    cbv
  have time : Timestamp.Instant.parse (paymentWithId "search").eventTimestamp =
      .ok ⟨1704153600, 0⟩ := by
    cbv
  have leads : Route.ofPath? (pathOf (historyTarget "search")) = some .search := by
    rw [pathOf_historyTarget]
    decide
  have reaches : (historyRequest "search").Reaches "GET" .search := ⟨rfl, leads⟩
  refine ⟨rfl, creates_creation small parsed time, readBody_creation small parsed,
    fun database => ?_⟩
  rw [respond_eq_carryOut, Request.plan_of_not_allowed reaches (by decide) (by decide)]
  rfl

end Http

end TransactionLedger
