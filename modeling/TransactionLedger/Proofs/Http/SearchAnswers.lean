import TransactionLedger.Config.Settings
import TransactionLedger.Proofs.Http.History
import TransactionLedger.Proofs.Record.Conversion
import TransactionLedger.Proofs.Record.PrintedDocuments
import TransactionLedger.Proofs.Store.Judging

/-!
# Searches that are answered

Over a table that creations have filled, a search without a fault is answered by the records that it
finds, if it fits into a statement and its patterns are short. A search that does not fit is
answered by an error whatever the table holds. So is a long id fragment once there is a row to look
at; an index may leave none, and then nothing is found.
-/

namespace TransactionLedger

open Json Query Store

/-! ## Rows of creations -/

namespace Http

theorem Adds.printed {context : Context} {request : Request} {response : Response}
    {earlier later : Table} {document : Record.RecordDocument} {event : Timestamp.Instant}
    {id : Int} (adds : Adds context request response earlier later document event id) :
    (newRow context document event id).Printed :=
  ⟨document.data, rfl,
    Record.RecordDocument.wellFormed_of_read (Request.read_of_readBody adds.read)⟩

theorem kept_printed (requests : List (Context × Request)) :
    Kept (fun table => ∀ row ∈ table.rows, row.Printed) requests := by
  intro arrival _ response earlier later document event id adds printed row present
  rw [adds.rows, List.mem_append, List.mem_singleton] at present
  rcases present with before | rfl
  · exact printed row before
  · exact adds.printed

end Http

/-! ## Checked searches -/

theorem Record.SearchDocument.checked_of_toSearch {document : SearchDocument} {search : Search}
    (converted : document.toSearch = .ok search) :
    ∀ expression ∈ search.expression, expression.Checked := by
  have stated := (toSearch_eq_ok_iff.mp converted).expression
  intro expression given
  rw [Option.mem_def.mp given] at stated
  generalize document.dataQueryExpression = draft? at stated
  rcases stated with ⟨checked⟩
  exact (Draft.checkWithin_eq_ok_iff.mp checked).checked

namespace Http

open Record Sql

/-! ## Answers -/

/-- The request brings a search without a fault. -/
def Request.AsksSearch (request : Request) (context : Context) (search : Search) : Prop :=
  request.Reaches "POST" .search ∧ ∃ document,
    request.readBody context.maxBodySize SearchDocument.read = .ok document ∧
      document.toSearch = .ok search

/-- The answer lists the records of the table that a search finds. -/
def Response.ListsFound (response : Response) (table : Table) (search : Search)
    (entries : List Entry) : Prop :=
  response.status = 200 ∧
    response.body = (listJson (entries.map RecordDocument.ofEntry)).render ∧
    (table.rows.filter fun row => (Filter.ofSearch search).passes row.value).mapM Row.entry =
      .ok entries

namespace Request.AsksSearch

variable {request : Request} {context : Context} {search : Search} {database : Database}
  {table : Table}

theorem checked (asks : request.AsksSearch context search) :
    ∀ expression ∈ search.expression, expression.Checked := by
  rcases asks with ⟨-, document, -, converted⟩
  exact SearchDocument.checked_of_toSearch converted

theorem response_eq (asks : request.AsksSearch context search) (database : Database) :
    (respond context request database).1 =
      request.complete context (foundResponse (database.select (Filter.ofSearch search))) := by
  rcases asks with ⟨reaches, document, read, converted⟩
  rw [respond_eq_carryOut, plan_of_search reaches read converted]
  rfl

theorem listsFound (asks : request.AsksSearch context search) {entries : List Entry}
    (selected : database.select (Filter.ofSearch search) = .ok entries)
    (walked : (table.rows.filter fun row =>
      (Filter.ofSearch search).passes row.value).mapM Row.entry = .ok entries) :
    (respond context request database).1.ListsFound table search entries := by
  refine ⟨?_, ?_, walked⟩
  · rw [asks.response_eq, status_complete, selected]
    rfl
  · rw [asks.response_eq, body_complete asks.1 (by decide), selected]
    rfl

theorem answered (asks : request.AsksSearch context search) (reached : database.table = .ok table)
    (readable : table.Readable) (printed : ∀ row ∈ table.rows, row.Printed) (fits : search.Fits)
    (short : ∀ pattern ∈ search.patterns, Pattern.IsShort pattern) :
    ∃ entries, (respond context request database).1.ListsFound table search entries := by
  rcases Database.exists_select_ofSearch reached readable printed fits asks.checked short with
    ⟨entries, selected, walked⟩
  exact ⟨entries, asks.listsFound selected walked⟩

theorem status_of_error (asks : request.AsksSearch context search) {error : StoreError}
    (failed : database.select (Filter.ofSearch search) = .error error) :
    (respond context request database).1.status = 500 := by
  rw [asks.response_eq, status_complete, failed]
  rfl

/-- A search that does not fit is refused before any row is looked at. -/
theorem status_of_not_fits (asks : request.AsksSearch context search)
    (reached : database.table = .ok table) (unfit : ¬search.Fits) :
    (respond context request database).1.status = 500 := by
  cases refused : (Filter.ofSearch search).checkLimits with
  | ok _ => exact absurd (Filter.checkLimits_ofSearch_iff.mp refused) unfit
  | error error => exact asks.status_of_error (Database.select_of_refused reached refused)

theorem status_of_long_fragment (asks : request.AsksSearch context search)
    (reached : database.table = .ok table)
    (looked : table.visited database.planner (Filter.ofSearch search) ≠ []) {fragment : String}
    (given : search.idFragment = some fragment)
    (long : ¬Pattern.IsShort (Filter.fragmentPattern fragment)) :
    (respond context request database).1.status = 500 := by
  by_cases fits : search.Fits
  · have failed := Table.select_of_unjudged looked (Row.accepts_of_long_fragment given long)
    rw [← Database.select_of_table reached (Filter.checkLimits_ofSearch_iff.mpr fits)] at failed
    exact asks.status_of_error failed
  · exact asks.status_of_not_fits reached fits

/-- Where no row is looked at, nothing is found and nothing fails. -/
theorem answered_of_unvisited (asks : request.AsksSearch context search)
    (reached : database.table = .ok table) (fits : search.Fits)
    (unvisited : table.visited database.planner (Filter.ofSearch search) = []) :
    (respond context request database).1.ListsFound table search [] := by
  rcases Table.select_of_unvisited unvisited with ⟨none, selected⟩
  rw [← Database.select_of_table reached (Filter.checkLimits_ofSearch_iff.mpr fits)] at selected
  exact asks.listsFound selected (by rw [none, mapM_nil_eq_ok_iff])

end Request.AsksSearch

/-- Over a table that was empty, and with a clock that shows valid times, a search without a fault
is answered by the records that it finds, if it fits into a statement and its patterns are short. It
is answered by an error if it does not fit, or if its id fragment is too long and a row is looked
at; if none is, nothing is found. A row that meets the event types and the bounds of the event time
is looked at, whatever index is used. -/
theorem searches_answered {database : Database} {table : Table}
    {requests : List (Context × Request)} (reached : database.table = .ok table)
    (empty : table.rows = []) (clocks : ∀ arrival ∈ requests, arrival.1.now.Valid) :
    ∀ exchange ∈ serve database requests, ∀ search,
      exchange.request.AsksSearch exchange.context search →
        ∃ met, exchange.before.table = .ok met ∧
          (search.Fits → (∀ pattern ∈ search.patterns, Pattern.IsShort pattern) →
            ∃ entries, exchange.response.ListsFound met search entries) ∧
          (¬search.Fits → exchange.response.status = 500) ∧
          (∀ fragment ∈ search.idFragment, ¬Pattern.IsShort (Filter.fragmentPattern fragment) →
            (met.visited exchange.before.planner (Filter.ofSearch search) ≠ [] →
              exchange.response.status = 500) ∧
            (met.visited exchange.before.planner (Filter.ofSearch search) = [] → search.Fits →
              exchange.response.ListsFound met search [])) ∧
          (∀ row ∈ met.rows, (Filter.ofSearch search.indexed).passes row.value = true →
            row ∈ met.visited exchange.before.planner (Filter.ofSearch search)) := by
  intro exchange inside search asks
  have start : table.Readable ∧ ∀ row ∈ table.rows, row.Printed := by
    simp [Table.Readable, empty]
  rcases of_mem_serve reached start ((kept_readable clocks).and (kept_printed requests)) inside with
    ⟨met, later, spans, readable, printed⟩
  rw [spans.response]
  refine ⟨met, spans.reached, asks.answered spans.reached readable printed,
    asks.status_of_not_fits spans.reached, ?_, ?_⟩
  · intro fragment given long
    exact ⟨fun looked => asks.status_of_long_fragment spans.reached looked given long,
      fun unvisited fits => asks.answered_of_unvisited spans.reached fits unvisited⟩
  · intro row present passed
    exact List.mem_filter.mpr ⟨present, Planner.visits_of_passes_indexed passed⟩

/-! ## Examples -/

def amountDraft : Draft :=
  .comparison "amount" "=" (.number (.integer 5))

theorem isIdentifier_amount : isIdentifier ['a', 'm', 'o', 'u', 'n', 't'] = true :=
  rfl

def amountIsFive : Comparison :=
  ⟨⟨⟨['a', 'm', 'o', 'u', 'n', 't'], isIdentifier_amount⟩, []⟩, .equal, .number (.integer 5)⟩

/-- The amount is five, and that many times more, nested to the right. -/
def nestedDraft : Nat → Draft
  | 0 => amountDraft
  | count + 1 => .combination amountDraft "AND" (nestedDraft count)

def nestedExpression : Nat → Expression
  | 0 => .leaf amountIsFive
  | count + 1 => .combine (.leaf amountIsFive) .conjunction (nestedExpression count)

def nestedSearch (count : Nat) : Search where
  expression := some (nestedExpression count)

def nestedDocument (count : Nat) : SearchDocument where
  dataQueryExpression := some (nestedDraft count)

def nestedRequest (count : Nat) : Request where
  method := "POST"
  target := "/transactionRecords/search"
  headers := [("content-type", "application/json")]
  body := Text.utf8Bytes (nestedDocument count).render

/-- The size of bodies that is allowed by default. -/
def defaultContext : Context :=
  { sampleContext with maxBodySize := (Config.Settings.default "").api.maxBodySize.toNat }

theorem checkWithin_nestedDraft (text : String) (count : Nat) :
    (nestedDraft count).checkWithin text = .ok (nestedExpression count) := by
  have leaf : amountDraft.checkWithin text = .ok (.leaf amountIsFive) := rfl
  have conjunction : Combinator.ofName? "AND" = some .conjunction := rfl
  induction count with
  | zero => exact leaf
  | succ count ih =>
      rw [nestedDraft, Draft.checkWithin, conjunction]
      simp only [leaf, ih, ok_bind]
      rfl

theorem toSearch_nestedDocument (count : Nat) :
    (nestedDocument count).toSearch = .ok (nestedSearch count) := by
  simp [nestedDocument, SearchDocument.toSearch, readRange, readExpression, Draft.check,
    checkWithin_nestedDraft, nestedSearch, Except.mapError]

theorem wellFormed_nestedDraft (count : Nat) :
    (nestedDraft count).toJson.WellFormed (count + 1) := by
  have leaf (room : Nat) : amountDraft.toJson.WellFormed (room + 1) :=
    Draft.wellFormed_comparison trivial
  induction count with
  | zero => exact leaf 0
  | succ count ih => exact Draft.wellFormed_combination (leaf count) ih

theorem readable_nestedDraft (count : Nat) :
    (nestedDraft count).toJson.EveryNumber Number.Readable := by
  have leaf : amountDraft.toJson.EveryNumber Number.Readable :=
    ⟨trivial, trivial, Number.readable_integer (by decide), trivial⟩
  induction count with
  | zero => exact leaf
  | succ count ih => exact ⟨leaf, trivial, ih, trivial⟩

theorem length_text_nestedDraft (count : Nat) :
    (nestedDraft count).toJson.text.length = 43 + 75 * count := by
  have leaf : amountDraft.toJson.text.length = 43 := by decide
  have lhs : (quoted "lhs").length = 5 := by decide
  have operator : (quoted "operator").length = 10 := by decide
  have rhs : (quoted "rhs").length = 5 := by decide
  have conjunction : (quoted "AND").length = 5 := by decide
  induction count with
  | zero => exact leaf
  | succ count ih =>
      simp only [nestedDraft, Draft.toJson, Json.text, membersText, furtherMembersText,
        List.length_cons, List.length_append, List.length_nil, leaf, lhs, operator, rhs,
        conjunction, ih]
      omega

theorem small_nestedRequest {count : Nat} (shallow : count < 126) :
    (nestedRequest count).body.length ≤ defaultContext.maxBodySize := by
  have limit : defaultContext.maxBodySize = 1048576 := rfl
  have key : (quoted "dataQueryExpression").length = 21 := by decide
  have characters : (nestedDocument count).render.toList.length = 67 + 75 * count := by
    have draft := length_text_nestedDraft count
    simp [SearchDocument.render, SearchDocument.toJson, nestedDocument, render,
      RecordDocument.optionalMember, Json.text, membersText, furtherMembersText, key, draft]
    omega
  have bytes : (nestedRequest count).body.length ≤
      4 * (nestedDocument count).render.toList.length := Text.length_utf8Bytes_le _
  omega

theorem asksSearch_nestedRequest {count : Nat} (shallow : count < 126) :
    (nestedRequest count).AsksSearch defaultContext (nestedSearch count) := by
  have leads : Route.ofPath? (pathOf "/transactionRecords/search") = some .search := by decide
  have header : (nestedRequest count).header? "content-type" = some "application/json" := rfl
  have announces : (nestedRequest count).announcesJson = true := by
    rw [Request.announcesJson, header]
    decide
  refine ⟨⟨rfl, leads⟩, nestedDocument count, ?_, toSearch_nestedDocument count⟩
  apply Request.readBody_utf8Bytes announces rfl (small_nestedRequest shallow)
  rw [SearchDocument.render, ofText_render]
  apply SearchDocument.read_node
  · rintro _ ⟨⟩
    exact WellFormed.mono shallow _ (wellFormed_nestedDraft count)
  · rintro _ ⟨⟩
    exact readable_nestedDraft count

theorem fits_nestedSearch : (nestedSearch 29).Fits where
  values := by decide
  alone := by
    rintro _ ⟨⟩
    decide
  behind := by
    rintro _ ⟨⟩ ⟨criterion, other, asks⟩
    cases criterion <;> contradiction

/-- A search for thirty amounts is answered. -/
theorem searches_answered_nested :
    emptyLedger.table = .ok .empty ∧ (nestedSearch 29).Fits ∧ ∃ met entries,
      (Exchange.answer defaultContext (nestedRequest 29) (respond defaultContext
        (creation samplePayment) emptyLedger).2).response.ListsFound met (nestedSearch 29)
          entries := by
  have reached : emptyLedger.table = .ok .empty := rfl
  have clocks : ∀ arrival ∈ [(defaultContext, creation samplePayment),
      (defaultContext, nestedRequest 29)], arrival.1.now.Valid := by
    have clock : defaultContext.now.Valid := by decide
    simp [clock]
  have short : ∀ pattern ∈ (nestedSearch 29).patterns, Sql.Pattern.IsShort pattern := by
    have none : (nestedSearch 29).patterns = [] := by decide
    simp [none]
  have inside := List.mem_cons_of_mem
    (Exchange.answer defaultContext (creation samplePayment) emptyLedger)
    (mem_serve_cons defaultContext (nestedRequest 29) []
      (respond defaultContext (creation samplePayment) emptyLedger).2)
  rcases searches_answered reached rfl clocks _ inside (nestedSearch 29)
    (asksSearch_nestedRequest (by decide)) with ⟨met, -, answered, -⟩
  rcases answered fits_nestedSearch short with ⟨entries, lists⟩
  exact ⟨reached, fits_nestedSearch, met, entries, lists⟩

/-- One amount more is refused, though the request is small and has no fault. -/
theorem nested_not_answered :
    ¬∀ requests : List (Context × Request),
      (∀ arrival ∈ requests, arrival.1.now.Valid ∧
        arrival.1.maxBodySize = (Config.Settings.default "").api.maxBodySize.toNat) →
        ∀ exchange ∈ serve emptyLedger requests, ∀ search,
          exchange.request.AsksSearch exchange.context search →
            exchange.response.status = 200 := by
  intro answers
  have reached : emptyLedger.table = .ok .empty := rfl
  have allowed : ∀ arrival ∈ [(defaultContext, nestedRequest 30)], arrival.1.now.Valid ∧
      arrival.1.maxBodySize = (Config.Settings.default "").api.maxBodySize.toNat := by
    have clock : defaultContext.now.Valid := by decide
    intro arrival only
    rw [List.mem_singleton.mp only]
    exact ⟨clock, rfl⟩
  have asks : (nestedRequest 30).AsksSearch defaultContext (nestedSearch 30) :=
    asksSearch_nestedRequest (by decide)
  have unfit : ¬(nestedSearch 30).Fits :=
    fun fits => absurd (fits.alone _ rfl) (by decide)
  have claimed := answers _ allowed _
    (mem_serve_cons defaultContext (nestedRequest 30) [] emptyLedger) _ asks
  exact absurd ((asks.status_of_not_fits reached unfit).symm.trans claimed) (by decide)

end Http

end TransactionLedger
