import TransactionLedger.Http.Exchange
import TransactionLedger.Proofs.Record.Ledger
import TransactionLedger.Proofs.Text.Utf8

/-!
# What a request asks of the store

A request asks the store for one thing at most, and what it asks for depends on the request and its
context alone. So a plan can be made before the database is touched: the plan of a request that is
refused early is its answer, and only the plan of a creation adds a row.
-/

namespace TransactionLedger.Http

open Record Store

/-! ## Bodies -/

theorem Request.read_of_readBody {α : Type} {request : Request} {read : Json.Node → Json.Reading α}
    {size : Nat} {value : α} (succeeds : request.readBody size read = .ok value) :
    read (Json.Document.ofSource (Text.decodeUtf8 request.body)).root = .ok value := by
  unfold readBody at succeeds
  split at succeeds
  · contradiction
  split at succeeds
  · contradiction
  exact mapError_eq_ok_iff.mp succeeds

/-- What a body holds does not depend on the size that is allowed. -/
theorem Request.eq_of_readBody {α : Type} {request : Request} {read : Json.Node → Json.Reading α}
    {size otherSize : Nat} {value other : α} (succeeds : request.readBody size read = .ok value)
    (otherSucceeds : request.readBody otherSize read = .ok other) : value = other := by
  unfold readBody at succeeds otherSucceeds
  split at succeeds
  · contradiction
  rename_i announced
  rw [if_neg announced] at otherSucceeds
  split at succeeds
  · contradiction
  split at otherSucceeds
  · contradiction
  exact Except.ok.inj (succeeds.symm.trans otherSucceeds)

theorem Request.readBody_utf8Bytes {α : Type} {request : Request} {read : Json.Node → Json.Reading α}
    {size : Nat} {text : String} {value : α} (announces : request.announcesJson = true)
    (body : request.body = Text.utf8Bytes text) (small : request.body.length ≤ size)
    (reads : read (Json.Document.ofText text).root = .ok value) :
    request.readBody size read = .ok value := by
  have source : Text.decodeUtf8 request.body = Json.Source.ofText text.toList := by
    rw [body, Text.utf8Bytes, Text.decodeUtf8_flatMap, Json.Source.ofText]
  unfold readBody
  rw [announces, if_neg (by decide), if_neg (Nat.not_lt.mpr small), source]
  exact mapError_eq_ok_iff.mpr reads

/-! ## Plans -/

/-- What is asked of the store, and what is answered to the outcome. -/
inductive Plan
  /-- The store is not asked. -/
  | answer (response : Response)
  | append (cells : Cells) (respond : Except StoreError Int → Response)
  | select (filter : Filter) (respond : Except StoreError (List Entry) → Response)
  | check (respond : Except StoreError Unit → Response)

namespace Plan

def carryOut : Plan → Handler
  | answer response, database => (response, database)
  | append cells respond, database =>
    (respond (database.append cells).1, (database.append cells).2)
  | select filter respond, database => (respond (database.select filter), database)
  | check respond, database => (respond database.check.1, database.check.2)

/-- The plan with a change to every answer. -/
def adapt (change : Response → Response) : Plan → Plan
  | answer response => answer (change response)
  | append cells respond => append cells (change ∘ respond)
  | select filter respond => select filter (change ∘ respond)
  | check respond => check (change ∘ respond)

theorem carryOut_adapt (change : Response → Response) (plan : Plan) (database : Database) :
    (plan.adapt change).carryOut database =
      (change (plan.carryOut database).1, (plan.carryOut database).2) := by
  cases plan <;> rfl

end Plan

/-! ## The plans of the resources -/

def createdResponse (document : RecordDocument) (eventTime : Timestamp.Instant) :
    Except StoreError Int → Response
  | .ok id => outcomeResponse RecordDocument.toJson (.ok (document.created id eventTime))
  | .error error => outcomeResponse RecordDocument.toJson (.error (.store error))

def foundResponse : Except StoreError (List Entry) → Response
  | .ok entries => outcomeResponse listJson (.ok (entries.map RecordDocument.ofEntry))
  | .error error => outcomeResponse listJson (.error (.store error))

def readyResponse : Except StoreError Unit → Response
  | .ok () => .ofStatus 200
  | .error error => (ApiError.unavailable error.message).response

def createPlan (context : Context) (request : Request) : Plan :=
  match request.readBody context.maxBodySize RecordDocument.read with
  | .error error => .answer error.response
  | .ok document =>
    match readInstant "eventTimestamp" document.eventTimestamp with
    | .error error => .answer (outcomeResponse RecordDocument.toJson (.error (.request error)))
    | .ok eventTime =>
      .append (newCells document.uniqueId eventTime document.eventType document.data context.now)
        (createdResponse document eventTime)

def searchPlan (context : Context) (request : Request) : Plan :=
  match request.readBody context.maxBodySize SearchDocument.read with
  | .error error => .answer error.response
  | .ok document =>
    match document.toSearch with
    | .error error => .answer (outcomeResponse listJson (.error (.request error)))
    | .ok search => .select (.ofSearch search) foundResponse

def historyPlan (segment : List Char) : Plan :=
  match segmentText? segment with
  | some id => .select (.ofId id) foundResponse
  | none => .answer (.ofText 400 "Invalid URL: Invalid UTF-8 in \x60uniqueId\x60")

def Route.plan (context : Context) (request : Request) : Route → Plan
  | records => createPlan context request
  | search => searchPlan context request
  | history segment => historyPlan segment
  | health => .answer (.ofJson 200 (healthReport context))
  | liveness => .answer (.ofStatus 200)
  | readiness => .check readyResponse

/-! ## The plan of a request -/

def Request.reduce (request : Request) (response : Response) : Response :=
  if request.method = "HEAD" then response.withoutBody else response

def Request.finish (request : Request) (context : Context) (response : Response) : Response :=
  (((response.withHeader "x-request-id" (requestId context request)).withHeader
    "vary" varyHeader).withHeader "access-control-allow-origin" "*").withHeader
    "access-control-expose-headers" "*"

def Request.routePlan (request : Request) (context : Context) : Plan :=
  match Route.ofPath? (pathOf request.target) with
  | none => .answer (.ofStatus 404)
  | some route =>
    if route.allowed.contains request.method then
      (route.plan context request).adapt request.reduce
    else .answer ((Response.ofStatus 405).withHeader "allow" route.allowHeader)

def Request.plan (request : Request) (context : Context) : Plan :=
  if request.method = "OPTIONS" then .answer (preflight request)
  else (request.routePlan context).adapt (request.finish context)

theorem createRecord_eq_carryOut (context : Context) (request : Request) (database : Database) :
    createRecord context request database = (createPlan context request).carryOut database := by
  cases body : request.readBody context.maxBodySize RecordDocument.read with
  | error error => simp only [createRecord, createPlan, body, Plan.carryOut]
  | ok document =>
      cases time : readInstant "eventTimestamp" document.eventTimestamp with
      | error error => simp only [createRecord, createPlan, body, create, time, Plan.carryOut]
      | ok eventTime =>
          simp only [createRecord, createPlan, body, create, time, Record.append, Plan.carryOut]
          rcases database.append (newCells document.uniqueId eventTime document.eventType
            document.data context.now) with ⟨_ | _, after⟩ <;> rfl

theorem outcomeResponse_documents (filter : Filter) (database : Database) :
    outcomeResponse listJson (documents filter database) =
      foundResponse (database.select filter) := by
  unfold documents
  cases database.select filter <;> rfl

theorem searchRecords_eq_carryOut (context : Context) (request : Request) (database : Database) :
    searchRecords context request database = (searchPlan context request).carryOut database := by
  cases body : request.readBody context.maxBodySize SearchDocument.read with
  | error error => simp only [searchRecords, searchPlan, reading, body, Plan.carryOut]
  | ok document =>
      cases converted : document.toSearch with
      | error error =>
          simp only [searchRecords, searchPlan, reading, body, Record.search, converted,
            Plan.carryOut]
          rfl
      | ok search =>
          simp only [searchRecords, searchPlan, reading, body, Record.search, converted,
            Plan.carryOut, ← outcomeResponse_documents]
          rfl

theorem recordHistory_eq_carryOut (segment : List Char) (database : Database) :
    recordHistory segment database = (historyPlan segment).carryOut database := by
  cases read : segmentText? segment with
  | none => simp only [recordHistory, historyPlan, reading, read, Plan.carryOut]
  | some id =>
      simp only [recordHistory, historyPlan, reading, read, Plan.carryOut, Record.history,
        outcomeResponse_documents]

theorem readiness_eq_carryOut (database : Database) :
    readiness database = (Plan.check readyResponse).carryOut database := by
  simp only [readiness, Plan.carryOut]
  rcases database.check with ⟨_ | _, after⟩ <;> rfl

theorem Route.handle_eq_carryOut (context : Context) (request : Request) (route : Route)
    (database : Database) :
    route.handle context request database = (route.plan context request).carryOut database := by
  cases route with
  | records => exact createRecord_eq_carryOut context request database
  | search => exact searchRecords_eq_carryOut context request database
  | history segment => exact recordHistory_eq_carryOut segment database
  | health => rfl
  | liveness => rfl
  | readiness => exact readiness_eq_carryOut database

theorem dispatch_eq_carryOut (context : Context) (request : Request) (database : Database) :
    dispatch context request database = (request.routePlan context).carryOut database := by
  unfold dispatch Request.routePlan
  cases Route.ofPath? (pathOf request.target) with
  | none => rfl
  | some route =>
      by_cases allowed : route.allowed.contains request.method = true
      · simp only [if_pos allowed, Plan.carryOut_adapt, Route.handle_eq_carryOut]
        rfl
      · simp only [if_neg allowed]
        rfl

/-- A request is answered by carrying out its plan. -/
theorem respond_eq_carryOut (context : Context) (request : Request) (database : Database) :
    respond context request database = (request.plan context).carryOut database := by
  unfold respond Request.plan
  by_cases options : request.method = "OPTIONS"
  · simp only [if_pos options]
    rfl
  · simp only [if_neg options, Plan.carryOut_adapt, dispatch_eq_carryOut]
    rfl

/-! ## Requests by method and resource -/

/-- The request has the method and leads to the resource. -/
def Request.Reaches (request : Request) (method : String) (route : Route) : Prop :=
  request.method = method ∧ Route.ofPath? (pathOf request.target) = some route

def Request.complete (request : Request) (context : Context) : Response → Response :=
  request.finish context ∘ request.reduce

theorem Request.status_complete (request : Request) (context : Context) (response : Response) :
    (request.complete context response).status = response.status := by
  unfold complete reduce
  rw [Function.comp_apply]
  split <;> rfl

theorem Request.body_complete {request : Request} {method : String} {route : Route}
    (reaches : request.Reaches method route) (whole : method ≠ "HEAD") (context : Context)
    (response : Response) : (request.complete context response).body = response.body := by
  have notHead : ¬request.method = "HEAD" := reaches.1 ▸ whole
  unfold complete reduce
  rw [Function.comp_apply, if_neg notHead]
  rfl

theorem Plan.adapt_adapt (first second : Response → Response) (plan : Plan) :
    (plan.adapt first).adapt second = plan.adapt (second ∘ first) := by
  cases plan <;> rfl

theorem Request.plan_of_reaches {request : Request} {method : String} {route : Route}
    (reaches : request.Reaches method route) (allowed : method ∈ route.allowed)
    (context : Context) :
    request.plan context = (route.plan context request).adapt (request.complete context) := by
  rcases reaches with ⟨rfl, leads⟩
  have notOptions : ¬request.method = "OPTIONS" := by
    intro options
    rw [options] at allowed
    cases route <;> simp [Route.allowed, Route.takesPost] at allowed
  unfold Request.plan Request.routePlan
  rw [if_neg notOptions, leads]
  simp only [List.contains_iff_mem, if_pos allowed, Plan.adapt_adapt]
  rfl

theorem Request.plan_of_not_allowed {request : Request} {method : String} {route : Route}
    (reaches : request.Reaches method route) (notAllowed : method ∉ route.allowed)
    (notOptions : method ≠ "OPTIONS") (context : Context) :
    request.plan context = .answer (request.finish context
      ((Response.ofStatus 405).withHeader "allow" route.allowHeader)) := by
  rcases reaches with ⟨rfl, leads⟩
  unfold Request.plan Request.routePlan
  rw [if_neg notOptions, leads]
  simp only [List.contains_iff_mem, if_neg notAllowed]
  rfl

/-! ## Faults -/

/-- The statuses of requests that are refused before the store is asked. -/
def refusalStatuses : List Nat :=
  [400, 413, 415, 422]

theorem status_mem_of_bodyError (error : BodyError) : error.response.status ∈ refusalStatuses := by
  cases error <;> simp [BodyError.response, Response.ofText, BodyError.status, refusalStatuses]

theorem status_mem_of_requestError {α : Type} (toJson : α → Json) (error : RequestError) :
    (outcomeResponse toJson (.error (.request error))).status ∈ refusalStatuses := by
  cases error <;> simp [outcomeResponse, ApiError.ofOperation, ApiError.response, Response.ofJson,
    ApiError.status, refusalStatuses]

/-- A creation or a search with a fault: its body cannot be read, or the body states an event time,
a bound or an expression that cannot be. -/
inductive Request.Faulty (request : Request) (context : Context) : Prop
  | recordBody (reaches : request.Reaches "POST" .records) {error : BodyError}
      (refused : request.readBody context.maxBodySize RecordDocument.read = .error error)
  | eventTime (reaches : request.Reaches "POST" .records) {document : RecordDocument}
      {error : RequestError}
      (read : request.readBody context.maxBodySize RecordDocument.read = .ok document)
      (refused : readInstant "eventTimestamp" document.eventTimestamp = .error error)
  | searchBody (reaches : request.Reaches "POST" .search) {error : BodyError}
      (refused : request.readBody context.maxBodySize SearchDocument.read = .error error)
  | criteria (reaches : request.Reaches "POST" .search) {document : SearchDocument}
      {error : RequestError}
      (read : request.readBody context.maxBodySize SearchDocument.read = .ok document)
      (refused : document.toSearch = .error error)

theorem Request.refused_of_plan {request : Request} {context : Context} {method : String}
    {route : Route} {response : Response} (reaches : request.Reaches method route)
    (allowed : method ∈ route.allowed) (status : response.status ∈ refusalStatuses)
    (plan : route.plan context request = .answer response) : ∃ response,
    request.plan context = .answer response ∧ response.status ∈ refusalStatuses := by
  refine ⟨request.complete context response, ?_, ?_⟩
  · rw [plan_of_reaches reaches allowed, plan, Plan.adapt]
  · rw [status_complete]
    exact status

/-- A request with a fault is refused, and the store is not asked. -/
theorem Request.Faulty.refused {request : Request} {context : Context}
    (faulty : request.Faulty context) : ∃ response,
    request.plan context = .answer response ∧ response.status ∈ refusalStatuses := by
  cases faulty with
  | @recordBody reaches error refused =>
      apply refused_of_plan reaches (by decide) (status_mem_of_bodyError error)
      simp only [Route.plan, createPlan, refused]
  | @eventTime reaches document error read refused =>
      apply refused_of_plan reaches (by decide)
        (status_mem_of_requestError RecordDocument.toJson error)
      simp only [Route.plan, createPlan, read, refused]
  | @searchBody reaches error refused =>
      apply refused_of_plan reaches (by decide) (status_mem_of_bodyError error)
      simp only [Route.plan, searchPlan, refused]
  | @criteria reaches document error read refused =>
      apply refused_of_plan reaches (by decide) (status_mem_of_requestError listJson error)
      simp only [Route.plan, searchPlan, read, refused]

theorem Request.Faulty.not_answered {request : Request} {context : Context}
    (faulty : request.Faulty context) (database : Database) :
    (respond context request database).1.status ≠ 200 := by
  intro succeeds
  rcases faulty.refused with ⟨response, plan, refused⟩
  rw [respond_eq_carryOut, plan] at succeeds
  exact absurd (succeeds ▸ refused) (by decide)

/-! ## Requests without a fault -/

theorem Request.sound_of_read {request : Request} {context : Context} {document : RecordDocument}
    {event : Timestamp.Instant} (reaches : request.Reaches "POST" .records)
    (read : request.readBody context.maxBodySize RecordDocument.read = .ok document)
    (time : Timestamp.Instant.parse document.eventTimestamp = .ok event) :
    ¬request.Faulty context := by
  intro faulty
  cases faulty with
  | recordBody _ refused =>
      rw [read] at refused
      contradiction
  | eventTime _ other refused =>
      rcases Except.ok.inj (read.symm.trans other)
      rw [readInstant, time] at refused
      contradiction
  | searchBody elsewhere _ =>
      have same := reaches.2.symm.trans elsewhere.2
      contradiction
  | criteria elsewhere _ _ =>
      have same := reaches.2.symm.trans elsewhere.2
      contradiction

theorem Request.plan_of_sound_creation {request : Request} {context : Context}
    (reaches : request.Reaches "POST" .records) (sound : ¬request.Faulty context) :
    ∃ document event,
      request.readBody context.maxBodySize RecordDocument.read = .ok document ∧
        Timestamp.Instant.parse document.eventTimestamp = .ok event ∧
        request.plan context = .append
          (newCells document.uniqueId event document.eventType document.data context.now)
          (request.complete context ∘ createdResponse document event) := by
  cases read : request.readBody context.maxBodySize RecordDocument.read with
  | error error => exact absurd (.recordBody reaches read) sound
  | ok document =>
      cases time : readInstant "eventTimestamp" document.eventTimestamp with
      | error error => exact absurd (.eventTime reaches read time) sound
      | ok event =>
          refine ⟨document, event, rfl, mapError_eq_ok_iff.mp time, ?_⟩
          rw [plan_of_reaches reaches (by decide)]
          simp only [Route.plan, createPlan, read, time, Plan.adapt]

theorem Request.plan_of_search {request : Request} {context : Context}
    (reaches : request.Reaches "POST" .search) {document : SearchDocument} {search : Query.Search}
    (read : request.readBody context.maxBodySize SearchDocument.read = .ok document)
    (converted : document.toSearch = .ok search) :
    request.plan context =
      .select (.ofSearch search) (request.complete context ∘ foundResponse) := by
  rw [plan_of_reaches reaches (by decide)]
  simp only [Route.plan, searchPlan, read, converted, Plan.adapt]

theorem Request.plan_of_sound_search {request : Request} {context : Context}
    (reaches : request.Reaches "POST" .search) (sound : ¬request.Faulty context) :
    ∃ document search,
      request.readBody context.maxBodySize SearchDocument.read = .ok document ∧
        document.toSearch = .ok search ∧
        request.plan context =
          .select (.ofSearch search) (request.complete context ∘ foundResponse) := by
  cases read : request.readBody context.maxBodySize SearchDocument.read with
  | error error => exact absurd (.searchBody reaches read) sound
  | ok document =>
      cases converted : document.toSearch with
      | error error => exact absurd (.criteria reaches read converted) sound
      | ok search =>
          exact ⟨document, search, rfl, converted, plan_of_search reaches read converted⟩

theorem Request.plan_of_history {request : Request} {segment : List Char}
    (reaches : request.Reaches "GET" (.history segment)) {id : String}
    (read : segmentText? segment = some id) (context : Context) :
    request.plan context = .select (.ofId id) (request.complete context ∘ foundResponse) := by
  rw [plan_of_reaches reaches (by simp [Route.allowed, Route.takesPost])]
  simp only [Route.plan, historyPlan, read, Plan.adapt]

/-! ## Plans that add no row -/

/-- A plan that adds no row. -/
def Plan.Reads : Plan → Prop
  | append .. => False
  | _ => True

theorem Plan.reads_adapt (change : Response → Response) {plan : Plan} :
    (plan.adapt change).Reads ↔ plan.Reads := by
  cases plan <;> rfl

theorem reads_searchPlan (context : Context) (request : Request) :
    (searchPlan context request).Reads := by
  unfold searchPlan
  split
  · trivial
  · split <;> trivial

theorem reads_historyPlan (segment : List Char) : (historyPlan segment).Reads := by
  unfold historyPlan
  split <;> trivial

/-- Every other request leaves the rows alone. -/
theorem Request.reads_plan {request : Request} (other : ¬request.Reaches "POST" .records)
    (context : Context) : (request.plan context).Reads := by
  unfold Request.plan
  split
  · trivial
  rw [Plan.reads_adapt]
  unfold Request.routePlan
  split
  · trivial
  rename_i route leads
  split
  · rename_i allowed
    rw [Plan.reads_adapt]
    cases route with
    | records =>
        have post : request.method = "POST" := by simpa [Route.allowed, Route.takesPost] using allowed
        exact absurd ⟨post, leads⟩ other
    | search => exact reads_searchPlan context request
    | history segment => exact reads_historyPlan segment
    | _ => trivial
  · trivial

end TransactionLedger.Http
