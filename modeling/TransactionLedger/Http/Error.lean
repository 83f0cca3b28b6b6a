import TransactionLedger.Http.Message
import TransactionLedger.Record.Operations

/-!
# Errors in answers

An error is answered as a JSON document with a code for programs and a message for people.
-/

namespace TransactionLedger.Http

/-- An error that is answered as a document. -/
inductive ApiError
  | expression (error : Query.QueryError)
  | timestamp (field : String) (error : Timestamp.TimestampError)
  | storage (error : Store.StoreError)
  | unavailable (reason : String)
  | internal (reason : String)
  | io (reason : String)
  deriving DecidableEq, Repr

namespace ApiError

def ofOperation : Record.OperationError → ApiError
  | .request (.expression error) => expression error
  | .request (.timestamp field error) => timestamp field error
  | .store error => storage error

def status : ApiError → Nat
  | expression _ => 400
  | timestamp .. => 400
  | storage _ => 500
  | unavailable _ => 503
  | internal _ => 500
  | io _ => 500

def code : ApiError → String
  | expression _ => "VALIDATION_ERROR"
  | timestamp .. => "INVALID_TIMESTAMP"
  | storage _ => "STORAGE_ERROR"
  | unavailable _ => "SERVICE_UNAVAILABLE"
  | internal _ => "INTERNAL_ERROR"
  | io _ => "IO_ERROR"

def message : ApiError → String
  | expression error => "Validation error: " ++ error.message
  | timestamp field error => (Record.RequestError.timestamp field error).message
  | storage error => "Storage error: " ++ error.message
  | unavailable reason => "Service unavailable: " ++ reason
  | internal reason => "Internal error: " ++ reason
  | io reason => "IO error: " ++ reason

def document (error : ApiError) : Json :=
  .object [("error", .object
    [("code", .string error.code), ("message", .string error.message)])]

def response (error : ApiError) : Response :=
  .ofJson error.status error.document

end ApiError

end TransactionLedger.Http
