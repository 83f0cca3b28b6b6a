import TransactionLedger.Proofs.Http.Plan
import TransactionLedger.Proofs.Store.Growth

/-!
# The ledger only grows

Whatever requests come in, and in whatever order, the record table changes only with a creation that
is answered as a success, and then by one row behind all others. So the answers to the same question
grow with the table: an earlier list is the beginning of every later one.
-/

namespace TransactionLedger.Http

open Record Store

/-! ## Creations -/

/-- The answer says that the request has created a record. -/
def Creates (request : Request) (response : Response) : Prop :=
  request.Reaches "POST" .records ∧ response.status = 200

def newRow (context : Context) (document : RecordDocument) (event : Timestamp.Instant) (id : Int) :
    Row :=
  ⟨id, newCells document.uniqueId event document.eventType document.data context.now⟩

/-- A row has been added for the document in a request, and is answered under its id. -/
structure Adds (context : Context) (request : Request) (response : Response)
    (earlier later : Table) (document : RecordDocument) (event : Timestamp.Instant) (id : Int) :
    Prop where
  read : request.readBody context.maxBodySize RecordDocument.read = .ok document
  time : Timestamp.Instant.parse document.eventTimestamp = .ok event
  answer : response.body = (document.created id event).render
  rows : later.rows = earlier.rows ++ [newRow context document event id]
  fresh : earlier.largestId < id

theorem Plan.table_carryOut {plan : Plan} (reads : plan.Reads) {database : Database} {table : Table}
    (reached : database.table = .ok table) : (plan.carryOut database).2.table = .ok table := by
  cases plan with
  | answer response => exact reached
  | append cells respond => exact reads.elim
  | select filter respond => exact reached
  | check respond => exact Database.table_check reached

/-- A request adds the row of a creation that succeeds, or leaves the table as it is. -/
theorem respond_cases {database : Database} {table : Table} (reached : database.table = .ok table)
    (context : Context) (request : Request) :
    ∃ later, (respond context request database).2.table = .ok later ∧
      (Creates request (respond context request database).1 ∧ (∃ document event id,
          Adds context request (respond context request database).1 table later document event id) ∨
        ¬Creates request (respond context request database).1 ∧ later = table) := by
  by_cases reaches : request.Reaches "POST" .records
  · rw [respond_eq_carryOut]
    by_cases faulty : request.Faulty context
    · rcases faulty.refused with ⟨response, plan, refused⟩
      rw [plan]
      exact ⟨table, reached, .inr ⟨fun creates => absurd (creates.2 ▸ refused) (by decide), rfl⟩⟩
    · rcases Request.plan_of_sound_creation reaches faulty with ⟨document, event, read, time, plan⟩
      rw [plan, Plan.carryOut, Function.comp_apply]
      -- The store may still refuse the row, when it has run out of ids.
      rcases append_cases reached
          (newCells document.uniqueId event document.eventType document.data context.now) with
        ⟨error, failed⟩ | ⟨id, later, after, added, afterReached, rows, fresh⟩
      · rw [failed]
        refine ⟨table, reached, .inr ⟨fun creates => ?_, rfl⟩⟩
        have status : 500 = 200 := (request.status_complete context _).symm.trans creates.2
        exact absurd status (by decide)
      · rw [added]
        refine ⟨later, afterReached, .inl ⟨⟨reaches, request.status_complete context _⟩, document,
          event, id, read, time, ?_, rows, fresh⟩⟩
        exact Request.body_complete reaches (by decide) context _
  · refine ⟨table, ?_, .inr ⟨fun creates => reaches creates.1, rfl⟩⟩
    rw [respond_eq_carryOut]
    exact Plan.table_carryOut (request.reads_plan reaches context) reached

/-- A creation without a fault succeeds as long as there are ids. -/
theorem creates_of_sound {database : Database} {table : Table} (reached : database.table = .ok table)
    (room : table.largestId < Table.idLimit) {context : Context} {request : Request}
    (reaches : request.Reaches "POST" .records) (sound : ¬request.Faulty context) :
    Creates request (respond context request database).1 := by
  rcases Request.plan_of_sound_creation reaches sound with ⟨document, event, -, -, plan⟩
  refine ⟨reaches, ?_⟩
  rw [respond_eq_carryOut, plan, Plan.carryOut, Function.comp_apply, Request.status_complete]
  simp only [Database.append, Database.modify, reached, Table.append, if_neg (Int.not_le.mpr room)]
  rfl

/-! ## Lists -/

/-- The request asks for the records with one id or for the records that a search finds. -/
def Request.Lists (request : Request) : Prop :=
  (∃ segment, request.Reaches "GET" (.history segment)) ∨ request.Reaches "POST" .search

theorem of_answered_list {request : Request} {context : Context} {method : String} {route : Route}
    (reaches : request.Reaches method route) (whole : method ≠ "HEAD") {filter : Filter}
    (plan : request.plan context = .select filter (request.complete context ∘ foundResponse))
    {database : Database} (succeeds : (respond context request database).1.status = 200) :
    ∃ entries, database.select filter = .ok entries ∧
      (respond context request database).1.body =
        (listJson (entries.map RecordDocument.ofEntry)).render := by
  rw [respond_eq_carryOut, plan, Plan.carryOut, Function.comp_apply] at succeeds ⊢
  cases selected : database.select filter with
  | error error =>
      rw [selected, Request.status_complete] at succeeds
      exact absurd (show 500 = 200 from succeeds) (by decide)
  | ok entries => exact ⟨entries, rfl, Request.body_complete reaches whole context _⟩

/-- A list is what one filter finds, in whatever context the request is answered. -/
theorem Request.Lists.filter {request : Request} (lists : request.Lists) : ∃ filter : Filter,
    ∀ context database, (respond context request database).1.status = 200 →
      ∃ entries, database.select filter = .ok entries ∧
        (respond context request database).1.body =
          (listJson (entries.map RecordDocument.ofEntry)).render := by
  rcases lists with ⟨segment, reaches⟩ | reaches
  · cases read : segmentText? segment with
    | some id =>
        exact ⟨.ofId id, fun context database =>
          of_answered_list reaches (by decide) (plan_of_history reaches read context)⟩
    | none =>
        refine ⟨.everything, ?_⟩
        intro context database succeeds
        rw [respond_eq_carryOut,
          plan_of_reaches reaches (by simp [Route.allowed, Route.takesPost])] at succeeds
        simp only [Route.plan, historyPlan, read, Plan.adapt, Plan.carryOut, status_complete]
          at succeeds
        exact absurd (show 400 = 200 from succeeds) (by decide)
  · -- The document is the same in all contexts that let it be read. If none does, the search is
    -- never answered with 200, and any filter will do.
    by_cases ever : ∃ context, ¬request.Faulty context
    · rcases ever with ⟨context, sound⟩
      rcases plan_of_sound_search reaches sound with ⟨document, search, read, converted, -⟩
      refine ⟨.ofSearch search, ?_⟩
      intro other database succeeds
      have otherSound : ¬request.Faulty other := fun faulty => faulty.not_answered database succeeds
      rcases plan_of_sound_search reaches otherSound with
        ⟨_, otherSearch, otherRead, otherConverted, plan⟩
      rcases eq_of_readBody read otherRead
      rcases Except.ok.inj (converted.symm.trans otherConverted)
      exact of_answered_list reaches (by decide) plan succeeds
    · refine ⟨.everything, ?_⟩
      intro context database succeeds
      exact absurd ⟨context, fun faulty => faulty.not_answered database succeeds⟩ ever

/-! ## Runs -/

/-- A request that has been answered, between the databases before it and after it. -/
structure Exchange where
  context : Context
  request : Request
  before : Database
  response : Response
  after : Database

namespace Exchange

def answer (context : Context) (request : Request) (database : Database) : Exchange where
  context
  request
  before := database
  response := (respond context request database).1
  after := (respond context request database).2

def Creates (exchange : Exchange) : Prop :=
  Http.Creates exchange.request exchange.response

theorem creates_answer {context : Context} {request : Request} {database : Database} :
    (answer context request database).Creates ↔
      Http.Creates request (respond context request database).1 :=
  Iff.rfl

/-- The exchange answers its request between two tables: it creates a record and adds a row for it,
or it leaves the table as it is. -/
structure Spans (exchange : Exchange) (earlier later : Table) : Prop where
  response : exchange.response = (respond exchange.context exchange.request exchange.before).1
  reached : exchange.before.table = .ok earlier
  reachedAfter : exchange.after.table = .ok later
  step : exchange.Creates ∧ (∃ document event id, Adds exchange.context exchange.request
      exchange.response earlier later document event id) ∨
    ¬exchange.Creates ∧ later = earlier

theorem spans_answer {database : Database} {table : Table} (reached : database.table = .ok table)
    (context : Context) (request : Request) :
    ∃ later, (answer context request database).Spans table later := by
  rcases respond_cases reached context request with ⟨later, reachedLater, step⟩
  exact ⟨later, rfl, reached, reachedLater, step⟩

theorem Spans.grown {exchange : Exchange} {earlier later : Table}
    (spans : exchange.Spans earlier later) : earlier.rows <+: later.rows := by
  rcases spans.step with ⟨-, document, event, id, adds⟩ | ⟨-, rfl⟩
  · exact ⟨_, adds.rows.symm⟩
  · exact List.prefix_rfl

end Exchange

/-- Answers requests one after the other, each in a context of its own. -/
def serve (database : Database) : List (Context × Request) → List Exchange
  | [] => []
  | (context, request) :: rest =>
    .answer context request database :: serve (respond context request database).2 rest

theorem mem_serve_cons (context : Context) (request : Request) (rest : List (Context × Request))
    (database : Database) : Exchange.answer context request database ∈
      serve database ((context, request) :: rest) :=
  List.mem_cons_self

/-- The property of tables is kept by all creations among the requests. -/
def Kept (invariant : Table → Prop) (requests : List (Context × Request)) : Prop :=
  ∀ arrival ∈ requests, ∀ response earlier later document event id,
    Adds arrival.1 arrival.2 response earlier later document event id → invariant earlier →
      invariant later

section Runs

variable {invariant : Table → Prop} {database : Database} {table later : Table}
  {requests : List (Context × Request)}

theorem Kept.spans {exchange : Exchange} (kept : Kept invariant requests)
    (inside : (exchange.context, exchange.request) ∈ requests) (spans : exchange.Spans table later)
    (holds : invariant table) : invariant later := by
  rcases spans.step with ⟨-, document, event, id, adds⟩ | ⟨-, rfl⟩
  · exact kept _ inside _ _ _ _ _ _ adds holds
  · exact holds

theorem Kept.tail {first : Context × Request} (kept : Kept invariant (first :: requests)) :
    Kept invariant requests :=
  fun arrival inside => kept arrival (List.mem_cons_of_mem _ inside)

theorem of_mem_serve (reached : database.table = .ok table) (start : invariant table)
    (kept : Kept invariant requests) {exchange : Exchange}
    (inside : exchange ∈ serve database requests) :
    ∃ earlier later, exchange.Spans earlier later ∧ invariant earlier := by
  induction requests generalizing database table with
  | nil => contradiction
  | cons first rest ih =>
      rcases Exchange.spans_answer reached first.1 first.2 with ⟨next, spans⟩
      rcases List.mem_cons.mp inside with rfl | behind
      · exact ⟨table, next, spans, start⟩
      · exact ih spans.reachedAfter (kept.spans List.mem_cons_self spans start) kept.tail behind

theorem kept_true (requests : List (Context × Request)) : Kept (fun _ => True) requests := by
  simp [Kept]

theorem exists_spans (reached : database.table = .ok table) {exchange : Exchange}
    (inside : exchange ∈ serve database requests) : ∃ earlier later, exchange.Spans earlier later := by
  rcases of_mem_serve reached trivial (kept_true requests) inside with ⟨earlier, later, spans, -⟩
  exact ⟨earlier, later, spans⟩

theorem kept_grown (rows : List Row) (requests : List (Context × Request)) :
    Kept (fun table => rows <+: table.rows) requests := by
  intro arrival _ response earlier later document event id adds grown
  exact grown.trans ⟨_, adds.rows.symm⟩

theorem Kept.and {other : Table → Prop} (kept : Kept invariant requests)
    (otherKept : Kept other requests) :
    Kept (fun table => invariant table ∧ other table) requests := by
  intro arrival inside response earlier later document event id adds held
  exact ⟨kept _ inside _ _ _ _ _ _ adds held.1, otherKept _ inside _ _ _ _ _ _ adds held.2⟩

/-- Two exchanges of a run are related if they are wherever the later one meets a table that has the
rows that the earlier one has left. -/
theorem pairwise_serve {related : Exchange → Exchange → Prop}
    (reached : database.table = .ok table) (start : invariant table)
    (kept : Kept invariant requests)
    (relate : ∀ (first second : Exchange) (earlier later behind last : Table),
      (first.context, first.request) ∈ requests → first.Spans earlier later →
        second.Spans behind last → later.rows <+: behind.rows → invariant behind →
          related first second) :
    (serve database requests).Pairwise related := by
  induction requests generalizing database table with
  | nil => exact .nil
  | cons first rest ih =>
      rcases Exchange.spans_answer reached first.1 first.2 with ⟨next, spans⟩
      have holds := kept.spans List.mem_cons_self spans start
      apply List.Pairwise.cons
      · intro second inside
        -- Beside the invariant, the rest of the run keeps the rows that the first exchange has left.
        rcases of_mem_serve spans.reachedAfter ⟨List.prefix_rfl, holds⟩
          ((kept_grown next.rows rest).and kept.tail) inside with
          ⟨behind, last, spansSecond, grown, held⟩
        exact relate _ second table next behind last List.mem_cons_self spans spansSecond grown held
      · apply ih spans.reachedAfter holds kept.tail
        intro other second earlier later behind last inside
        exact relate other second earlier later behind last (List.mem_cons_of_mem _ inside)

end Runs

/-- The later of two answers to the same question begins with the earlier one. -/
def Exchange.Extends (earlier later : Exchange) : Prop :=
  earlier.request = later.request → earlier.request.Lists →
    earlier.response.status = 200 → later.response.status = 200 →
      ∃ found behind, earlier.response.body = (listJson found).render ∧
        later.response.body = (listJson (found ++ behind)).render

theorem pairwise_extends {database : Database} {table : Table}
    (reached : database.table = .ok table) (requests : List (Context × Request)) :
    (serve database requests).Pairwise Exchange.Extends := by
  refine pairwise_serve reached trivial (kept_true requests) ?_
  intro first second earlier later behind last _ spans spansSecond grown _ same lists succeeds
    secondSucceeds
  rcases lists.filter with ⟨filter, found⟩
  rw [spans.response] at succeeds ⊢
  rw [spansSecond.response, ← same] at secondSucceeds ⊢
  rcases found _ _ succeeds with ⟨entries, selected, body⟩
  rcases found _ _ secondSucceeds with ⟨more, selectedMore, bodyMore⟩
  rcases Database.prefix_of_select spans.reached spansSecond.reached (spans.grown.trans grown) selected
    selectedMore with ⟨added, rfl⟩
  refine ⟨entries.map .ofEntry, added.map .ofEntry, body, ?_⟩
  rw [bodyMore, List.map_append]

/-- Over a table that can be reached, requests of any kind and in any order change the table only by
creations that are answered with 200. Each of those adds one row behind the others, with an id above
all that have been given. A creation or a search with a fault is refused without asking the store,
so it is answered alike over every database. A history or a search that is answered again is
answered by the same list or a longer one. -/
theorem serve_appends {database : Database} {table : Table} (reached : database.table = .ok table)
    (requests : List (Context × Request)) :
    (∀ exchange ∈ serve database requests, ∃ earlier later,
      exchange.before.table = .ok earlier ∧ exchange.after.table = .ok later ∧
        (exchange.Creates → ∃ row, later.rows = earlier.rows ++ [row] ∧
          earlier.largestId < row.id ∧ ∀ other ∈ earlier.rows, other.id < row.id) ∧
        (¬exchange.Creates → later = earlier)) ∧
      (∀ exchange ∈ serve database requests, exchange.request.Faulty exchange.context →
        exchange.request.plan exchange.context = .answer exchange.response ∧
          (∀ other, respond exchange.context exchange.request other = (exchange.response, other)) ∧
          exchange.response.status ∈ refusalStatuses) ∧
      (serve database requests).Pairwise Exchange.Extends := by
  refine ⟨?_, ?_, pairwise_extends reached requests⟩
  · intro exchange inside
    rcases exists_spans reached inside with ⟨earlier, later, spans⟩
    refine ⟨earlier, later, spans.reached, spans.reachedAfter, ?_⟩
    rcases spans.step with ⟨creates, document, event, id, adds⟩ | ⟨other, rfl⟩
    · refine ⟨fun _ => ⟨_, adds.rows, adds.fresh, fun row inside => ?_⟩, absurd creates⟩
      exact Int.lt_of_le_of_lt (earlier.bounded row inside) adds.fresh
    · exact ⟨fun creates => absurd creates other, fun _ => rfl⟩
  · intro exchange inside faulty
    rcases exists_spans reached inside with ⟨earlier, later, spans⟩
    rcases faulty.refused with ⟨response, plan, refused⟩
    have everywhere (other : Database) :
        respond exchange.context exchange.request other = (response, other) := by
      rw [respond_eq_carryOut, plan, Plan.carryOut]
    have answered : exchange.response = response := by
      rw [spans.response, everywhere]
    rw [answered]
    exact ⟨plan, everywhere, refused⟩

/-! ## An example -/

def sampleContext : Context where
  maxBodySize := 4096
  now := ⟨1704164645, 0⟩
  uptimeSeconds := 0
  freshId := "0"

def creation (document : RecordDocument) : Request where
  method := "POST"
  target := "/transactionRecords"
  headers := [("content-type", "application/json")]
  body := Text.utf8Bytes document.render

theorem reaches_creation (document : RecordDocument) :
    (creation document).Reaches "POST" .records := by
  have leads : Route.ofPath? (pathOf "/transactionRecords") = some .records := by decide
  exact ⟨rfl, leads⟩

theorem readBody_creation {document : RecordDocument}
    (small : (creation document).body.length ≤ sampleContext.maxBodySize)
    (parsed : RecordDocument.parse document.render = .ok document) :
    (creation document).readBody sampleContext.maxBodySize RecordDocument.read = .ok document := by
  have header : (creation document).header? "content-type" = some "application/json" := rfl
  have announces : (creation document).announcesJson = true := by
    rw [Request.announcesJson, header]
    decide
  exact Request.readBody_utf8Bytes announces rfl small (RecordDocument.read_of_parse parsed)

theorem creates_creation {document : RecordDocument} {event : Timestamp.Instant}
    (small : (creation document).body.length ≤ sampleContext.maxBodySize)
    (parsed : RecordDocument.parse document.render = .ok document)
    (time : Timestamp.Instant.parse document.eventTimestamp = .ok event) :
    (Exchange.answer sampleContext (creation document) emptyLedger).Creates := by
  have reached : emptyLedger.table = .ok .empty := rfl
  have room : Table.empty.largestId < Table.idLimit := by decide
  have reaches := reaches_creation document
  rw [Exchange.creates_answer]
  exact creates_of_sound reached room reaches
    (Request.sound_of_read reaches (readBody_creation small parsed) time)

/-- The first payment gets a row of its own. -/
theorem serve_samplePayment :
    emptyLedger.table = .ok .empty ∧ ∃ later row,
      (Exchange.answer sampleContext (creation samplePayment) emptyLedger).after.table =
          .ok later ∧
        later.rows = [row] ∧ 0 < row.id := by
  have reached : emptyLedger.table = .ok .empty := rfl
  have small : (creation samplePayment).body.length ≤ sampleContext.maxBodySize := by cbv
  have parsed : RecordDocument.parse samplePayment.render = .ok samplePayment := by cbv
  have time : Timestamp.Instant.parse samplePayment.eventTimestamp = .ok ⟨1704153600, 0⟩ := by cbv
  have first := mem_serve_cons sampleContext (creation samplePayment) [] emptyLedger
  rcases (serve_appends reached _).1 _ first with
    ⟨earlier, later, reachedEarlier, reachedLater, adds, -⟩
  have start : earlier = .empty := Except.ok.inj (reachedEarlier.symm.trans reached)
  rcases adds (creates_creation small parsed time) with ⟨row, rows, fresh, -⟩
  rw [start] at rows fresh
  exact ⟨reached, later, row, reachedLater, rows, fresh⟩

end TransactionLedger.Http
