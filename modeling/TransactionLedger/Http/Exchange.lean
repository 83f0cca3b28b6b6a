import TransactionLedger.Http.Body
import TransactionLedger.Http.Error
import TransactionLedger.Http.Route

/-!
# Answering requests

A request is routed by its path and its method. Whatever the answer is, it allows other origins to
see it; every answer but the one to `OPTIONS` carries the id of its request.
-/

namespace TransactionLedger.Http

open Record

/-- What an answer depends on beside the request and the database. -/
structure Context where
  maxBodySize : Nat
  now : Timestamp.Instant
  uptimeSeconds : Nat
  /-- The id for a request that brings none. -/
  freshId : String

/-- The version that is reported. -/
def version : String := "0.1.0"

def healthReport (context : Context) : Json :=
  .object [("status", .string "ok"),
    ("uptime_seconds", .number (.integer context.uptimeSeconds)),
    ("version", .string version)]

/-- The answer to the outcome of an operation. -/
def outcomeResponse {α : Type} (toJson : α → Json) : Except OperationError α → Response
  | .ok value => .ofJson 200 (toJson value)
  | .error error => (ApiError.ofOperation error).response

/-- An answer, and the database after it. -/
abbrev Handler := Store.Database → Response × Store.Database

/-- Answers without a change. -/
def reading (respond : Store.Database → Response) : Handler :=
  fun database => (respond database, database)

def createRecord (context : Context) (request : Request) : Handler := fun database =>
  match request.readBody context.maxBodySize RecordDocument.read with
  | .error error => (error.response, database)
  | .ok document =>
    let (outcome, database) := create document context.now database
    (outcomeResponse RecordDocument.toJson outcome, database)

def searchRecords (context : Context) (request : Request) : Handler := reading fun database =>
  match request.readBody context.maxBodySize SearchDocument.read with
  | .error error => error.response
  | .ok document => outcomeResponse listJson (search document database)

/-- The records with one id. -/
def recordHistory (segment : List Char) : Handler := reading fun database =>
  match segmentText? segment with
  | some id => outcomeResponse listJson (history id database)
  | none => .ofText 400 "Invalid URL: Invalid UTF-8 in \x60uniqueId\x60"

/-- Whether the store answers. -/
def readiness : Handler := fun database =>
  match database.check with
  | (.ok (), database) => (.ofStatus 200, database)
  | (.error error, database) => ((ApiError.unavailable error.message).response, database)

/-- Answers a request with an allowed method. -/
def Route.handle (context : Context) (request : Request) : Route → Handler
  | records => createRecord context request
  | search => searchRecords context request
  | history segment => recordHistory segment
  | health => reading fun _ => .ofJson 200 (healthReport context)
  | liveness => reading fun _ => .ofStatus 200
  | readiness => Http.readiness

/-- The value of the header that lists the allowed methods. -/
def Route.allowHeader (route : Route) : String :=
  ",".intercalate route.allowed

/-- Answers a request by its path and method. -/
def dispatch (context : Context) (request : Request) : Handler := fun database =>
  match Route.ofPath? (pathOf request.target) with
  | none => (.ofStatus 404, database)
  | some route =>
    if route.allowed.contains request.method then
      let (response, database) := route.handle context request database
      (if request.method = "HEAD" then response.withoutBody else response, database)
    else ((Response.ofStatus 405).withHeader "allow" route.allowHeader, database)

/-- The headers by which an answer depends on the origin of the request. -/
def varyHeader : String :=
  "origin, access-control-request-method, access-control-request-headers"

/-- A value that can serve as a request id: not empty, and only visible ASCII, blanks and tabs. -/
def isRequestId (value : String) : Bool :=
  !value.isEmpty && value.toList.all fun c => (32 ≤ c.toNat && c.toNat < 127) || c == '\t'

/-- The id of a request: the one that it brings, or a fresh one. -/
def requestId (context : Context) (request : Request) : String :=
  match request.header? "x-request-id" with
  | some value => if isRequestId value then value else context.freshId
  | none => context.freshId

/-- The answer to `OPTIONS`. -/
def preflight (request : Request) : Response :=
  let allow := match Route.ofPath? (pathOf request.target) with
    | some route => [("allow", route.allowHeader)]
    | none => []
  { status := 200
    headers := allow ++ [("vary", varyHeader), ("access-control-allow-origin", "*"),
      ("access-control-allow-methods", "*"), ("access-control-allow-headers", "*")]
    body := "" }

/-- Answers a request. -/
def respond (context : Context) (request : Request) : Handler := fun database =>
  if request.method = "OPTIONS" then (preflight request, database)
  else
    let (response, database) := dispatch context request database
    ((((response.withHeader "x-request-id" (requestId context request)).withHeader
      "vary" varyHeader).withHeader "access-control-allow-origin" "*").withHeader
      "access-control-expose-headers" "*", database)

end TransactionLedger.Http
