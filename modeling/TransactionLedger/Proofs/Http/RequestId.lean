import TransactionLedger.Proofs.Http.Plan

/-!
# Request ids

An answer names its request in the header `x-request-id`. Which resource answers and what the store
says has no part in this: no handler names a request, and the name is added to what they answer.
Only an answer to `OPTIONS` is given before that, and so it names no request.
-/

namespace TransactionLedger.Http

open Store

/-! ## Headers of responses -/

/-- All values of a header. -/
def Response.values (response : Response) (name : String) : List String :=
  (response.headers.filter (·.1 = name)).map Prod.snd

namespace Response

@[simp]
theorem values_withHeader_self (response : Response) (name value : String) :
    (response.withHeader name value).values name = response.values name ++ [value] := by
  simp [values, withHeader]

theorem values_withHeader_of_ne {name other : String} (different : other ≠ name)
    (response : Response) (value : String) :
    (response.withHeader other value).values name = response.values name := by
  simp [values, withHeader, different]

@[simp]
theorem values_withoutBody (response : Response) (name : String) :
    response.withoutBody.values name = response.values name :=
  rfl

end Response

/-- The response names no request. -/
def Response.Nameless (response : Response) : Prop :=
  response.values "x-request-id" = []

namespace Response

theorem nameless_ofStatus (status : Nat) : (ofStatus status).Nameless :=
  rfl

theorem nameless_ofJson (status : Nat) (value : Json) : (ofJson status value).Nameless := by
  simp [Nameless, values, ofJson]

theorem nameless_ofText (status : Nat) (text : String) : (ofText status text).Nameless := by
  simp [Nameless, values, ofText]

end Response

theorem BodyError.nameless (error : BodyError) : error.response.Nameless :=
  Response.nameless_ofText ..

theorem ApiError.nameless (error : ApiError) : error.response.Nameless :=
  Response.nameless_ofJson ..

theorem nameless_outcome {α : Type} (toJson : α → Json)
    (outcome : Except Record.OperationError α) : (outcomeResponse toJson outcome).Nameless := by
  cases outcome with
  | ok value => exact Response.nameless_ofJson ..
  | error error => exact ApiError.nameless _

theorem nameless_preflight (request : Request) : (preflight request).Nameless := by
  unfold preflight Response.Nameless Response.values
  cases Route.ofPath? (pathOf request.target) <;> simp

/-! ## Answers of plans -/

/-- Every answer that the plan can end with has the property. -/
def Plan.Answers (property : Response → Prop) : Plan → Prop
  | answer response => property response
  | append _ respond => ∀ outcome, property (respond outcome)
  | select _ respond => ∀ outcome, property (respond outcome)
  | check respond => ∀ outcome, property (respond outcome)

namespace Plan.Answers

variable {property other : Response → Prop} {plan : Plan}

theorem carryOut (answers : plan.Answers property) (database : Database) :
    property (plan.carryOut database).1 := by
  cases plan with
  | answer response => exact answers
  | append cells respond => exact answers _
  | select filter respond => exact answers _
  | check respond => exact answers _

theorem adapt {change : Response → Response} (answers : plan.Answers property)
    (changed : ∀ response, property response → other (change response)) :
    (plan.adapt change).Answers other := by
  cases plan with
  | answer response => exact changed _ answers
  | append cells respond => exact fun outcome => changed _ (answers outcome)
  | select filter respond => exact fun outcome => changed _ (answers outcome)
  | check respond => exact fun outcome => changed _ (answers outcome)

end Plan.Answers

theorem nameless_created (document : Record.RecordDocument) (eventTime : Timestamp.Instant)
    (outcome : Except StoreError Int) : (createdResponse document eventTime outcome).Nameless := by
  cases outcome <;> exact nameless_outcome ..

theorem nameless_found (outcome : Except StoreError (List Entry)) :
    (foundResponse outcome).Nameless := by
  cases outcome <;> exact nameless_outcome ..

theorem nameless_ready (outcome : Except StoreError Unit) : (readyResponse outcome).Nameless := by
  cases outcome with
  | ok _ => exact Response.nameless_ofStatus 200
  | error error => exact ApiError.nameless _

/-- No resource names the request that it answers. -/
theorem Route.nameless_plan (context : Context) (request : Request) (route : Route) :
    (route.plan context request).Answers Response.Nameless := by
  cases route with
  | records =>
      unfold Route.plan createPlan
      cases request.readBody context.maxBodySize Record.RecordDocument.read with
      | error error => exact error.nameless
      | ok document =>
          dsimp only
          cases Record.readInstant "eventTimestamp" document.eventTimestamp with
          | error error => exact nameless_outcome ..
          | ok eventTime => exact nameless_created document eventTime
  | search =>
      unfold Route.plan searchPlan
      cases request.readBody context.maxBodySize Record.SearchDocument.read with
      | error error => exact error.nameless
      | ok document =>
          dsimp only
          cases document.toSearch with
          | error error => exact nameless_outcome ..
          | ok search => exact nameless_found
  | history segment =>
      change (historyPlan segment).Answers Response.Nameless
      unfold historyPlan
      cases segmentText? segment with
      | none => exact Response.nameless_ofText ..
      | some id => exact nameless_found
  | health => exact Response.nameless_ofJson ..
  | liveness => exact Response.nameless_ofStatus 200
  | readiness => exact nameless_ready

theorem Request.nameless_reduce {response : Response} (request : Request)
    (nameless : response.Nameless) : (request.reduce response).Nameless := by
  unfold reduce
  split
  · exact nameless
  · exact nameless

theorem Request.nameless_routePlan (request : Request) (context : Context) :
    (request.routePlan context).Answers Response.Nameless := by
  unfold routePlan
  cases Route.ofPath? (pathOf request.target) with
  | none => exact Response.nameless_ofStatus 404
  | some route =>
      dsimp only
      split
      · exact (route.nameless_plan context request).adapt fun _ => request.nameless_reduce
      · exact (Response.values_withHeader_of_ne (by decide) _ _).trans
          (Response.nameless_ofStatus 405)

/-! ## The id of a request -/

/-- A value that can name a request: it is not empty, and it is made of visible ASCII, blanks and
tabs. -/
def CanName (value : String) : Prop :=
  value ≠ "" ∧ ∀ c ∈ value.toList, ('!' ≤ c ∧ c ≤ '~') ∨ c = ' ' ∨ c = '\t'

theorem isRequestId_iff (value : String) : isRequestId value = true ↔ CanName value := by
  have char (c : Char) : ((32 ≤ c.toNat && c.toNat < 127) || c == '\t') = true ↔
      ('!' ≤ c ∧ c ≤ '~') ∨ c = ' ' ∨ c = '\t' := by
    have least : '!' ≤ c ↔ 33 ≤ c.toNat := Iff.rfl
    have largest : c ≤ '~' ↔ c.toNat ≤ 126 := Iff.rfl
    have blank : c = ' ' ↔ c.toNat = 32 := Char.toNat_inj.symm
    have tab : c = '\t' ↔ c.toNat = 9 := Char.toNat_inj.symm
    simp only [Bool.or_eq_true, Bool.and_eq_true, decide_eq_true_eq, beq_iff_eq, least, largest,
      blank, tab]
    omega
  simp only [isRequestId, Bool.and_eq_true, Bool.not_eq_true', List.all_eq_true, char, CanName,
    ← Bool.not_eq_true, String.isEmpty_iff, ne_eq]

/-- The digits of a UUID. -/
def uuidDigits : List Char :=
  ['0', '1', '2', '3', '4', '5', '6', '7', '8', '9', 'a', 'b', 'c', 'd', 'e', 'f']

/-- The characters at the places of a random UUID: digits in five groups, with the version and the
variant in front of the third and the fourth group. -/
def uuidPlaces : List (List Char) :=
  let digits (count : Nat) := List.replicate count uuidDigits
  digits 8 ++ ['-'] :: digits 4 ++ ['-'] :: ['4'] :: digits 3 ++
    ['-'] :: ['8', '9', 'a', 'b'] :: digits 3 ++ ['-'] :: digits 12

theorem visible_of_uuidPlaces {place : List Char} (among : place ∈ uuidPlaces) {c : Char}
    (fits : c ∈ place) : '!' ≤ c ∧ c ≤ '~' := by
  have visible : (uuidPlaces.all fun place =>
      place.all fun c => 33 ≤ c.toNat && c.toNat ≤ 126) = true := by decide
  simp only [List.all_eq_true, Bool.and_eq_true, decide_eq_true_eq] at visible
  exact visible place among c fits

/-- The text is a random UUID. -/
def IsUuid (text : String) : Prop :=
  List.Forall₂ (fun c place => c ∈ place) text.toList uuidPlaces

theorem IsUuid.canName {text : String} (uuid : IsUuid text) : CanName text := by
  constructor
  · rintro rfl
    exact absurd uuid.length_eq (by decide)
  · intro c inside
    rcases List.mem_iff_get.mp inside with ⟨⟨i, bound⟩, rfl⟩
    have among : i < uuidPlaces.length := uuid.length_eq ▸ bound
    exact .inl (visible_of_uuidPlaces (List.get_mem uuidPlaces ⟨i, among⟩) (uuid.get bound among))

/-- The id of a request is the first that it brings, if that can name it, and else the fresh one. -/
theorem requestId_cases (context : Context) (request : Request) :
    (∃ value, request.header? "x-request-id" = some value ∧ CanName value ∧
      requestId context request = value) ∨
    (∀ value, request.header? "x-request-id" = some value → ¬CanName value) ∧
      requestId context request = context.freshId := by
  unfold requestId
  cases request.header? "x-request-id" with
  | none => simp
  | some value =>
      by_cases usable : CanName value
      · exact .inl ⟨value, rfl, usable, if_pos ((isRequestId_iff value).mpr usable)⟩
      · refine .inr ⟨?_, if_neg fun holds => usable ((isRequestId_iff value).mp holds)⟩
        rintro _ ⟨⟩
        exact usable

theorem Request.values_finish {response : Response} (nameless : response.Nameless)
    (request : Request) (context : Context) :
    (request.finish context response).values "x-request-id" = [requestId context request] := by
  unfold finish
  rw [Response.values_withHeader_of_ne (by decide), Response.values_withHeader_of_ne (by decide),
    Response.values_withHeader_of_ne (by decide), Response.values_withHeader_self, nameless,
    List.nil_append]

theorem Request.values_plan {request : Request} (answered : request.method ≠ "OPTIONS")
    (context : Context) : (request.plan context).Answers fun response =>
      response.values "x-request-id" = [requestId context request] := by
  unfold Request.plan
  rw [if_neg answered]
  exact (request.nameless_routePlan context).adapt fun _ nameless =>
    request.values_finish nameless context

/-- Where fresh ids are random UUIDs, every answer but those to `OPTIONS` names its request once: by
the first id that the request brings, if that can name it, and else by the fresh one. So the name
can be sent as the value of a header. An answer to `OPTIONS` names no request, whatever id it
brings. -/
theorem respond_names {context : Context} (fresh : IsUuid context.freshId) (request : Request)
    (database : Database) :
    (request.method ≠ "OPTIONS" → ∃ id,
      (respond context request database).1.values "x-request-id" = [id] ∧ CanName id ∧
        (∀ value, request.header? "x-request-id" = some value → CanName value → id = value) ∧
        ((∀ value, request.header? "x-request-id" = some value → ¬CanName value) →
          id = context.freshId ∧ IsUuid id)) ∧
      (request.method = "OPTIONS" →
        (respond context request database).1.values "x-request-id" = []) := by
  rw [respond_eq_carryOut]
  constructor
  · intro answered
    refine ⟨requestId context request, (request.values_plan answered context).carryOut database, ?_⟩
    rcases requestId_cases context request with ⟨value, first, usable, id⟩ | ⟨unusable, id⟩
    · rw [id]
      refine ⟨usable, ?_, fun unusable => absurd usable (unusable value first)⟩
      intro other firstOther _
      exact Option.some.inj (first.symm.trans firstOther)
    · rw [id]
      exact ⟨fresh.canName, fun value first usable => absurd usable (unusable value first),
        fun _ => ⟨rfl, fresh⟩⟩
  · intro options
    unfold Request.plan
    rw [if_pos options]
    exact nameless_preflight request

/-! ## Examples -/

def probe (method : String) : Request where
  method
  target := "/health"
  headers := [("x-request-id", "a")]
  body := []

def probeContext : Context where
  maxBodySize := 4096
  now := ⟨1704164645, 0⟩
  uptimeSeconds := 0
  freshId := "5e3c7a52-0f2b-4c7e-9d0a-6b1f8e2d4c3a"

theorem isUuid_probeContext : IsUuid probeContext.freshId := by
  unfold IsUuid
  decide

theorem respond_names_probe :
    IsUuid probeContext.freshId ∧ (probe "GET").method ≠ "OPTIONS" ∧
      (respond probeContext (probe "GET") Record.emptyLedger).1.values "x-request-id" = ["a"] := by
  have answered : (probe "GET").method ≠ "OPTIONS" := by decide
  have usable : CanName "a" := by
    rw [← isRequestId_iff]
    decide
  rcases (respond_names isUuid_probeContext (probe "GET") Record.emptyLedger).1 answered with
    ⟨id, named, -, brought, -⟩
  rw [brought "a" rfl usable] at named
  exact ⟨isUuid_probeContext, answered, named⟩

/-- A request by `OPTIONS` brings an id that could name it, and its answer has none. -/
theorem respond_preflight_nameless :
    ¬∀ (context : Context) (request : Request) (database : Database) (value : String),
      IsUuid context.freshId → request.header? "x-request-id" = some value → CanName value →
        (respond context request database).1.values "x-request-id" = [value] := by
  intro named
  have usable : CanName "a" := by
    rw [← isRequestId_iff]
    decide
  have claimed := named probeContext (probe "OPTIONS") Record.emptyLedger "a" isUuid_probeContext
    rfl usable
  have nameless : (respond probeContext (probe "OPTIONS") Record.emptyLedger).1.Nameless :=
    nameless_preflight _
  rw [nameless] at claimed
  contradiction

end TransactionLedger.Http
