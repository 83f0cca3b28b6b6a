import TransactionLedger.Http.MediaType
import TransactionLedger.Http.Message
import TransactionLedger.Json.Shape
import TransactionLedger.Text.Utf8

/-!
# JSON bodies

The body of a request is read as one JSON document; what follows the document does not matter. The
media type is checked first, then the size, and then the document itself.
-/

namespace TransactionLedger.Http

open Json

/-- Why a body is refused. -/
inductive BodyError
  | mediaType
  | tooLarge
  | malformed
  | misshapen (place : List Step) (error : ShapeError)
  deriving DecidableEq, Repr

namespace BodyError

def status : BodyError → Nat
  | mediaType => 415
  | tooLarge => 413
  | malformed => 400
  | misshapen .. => 422

def message : BodyError → String
  | mediaType => "Expected request with \x60Content-Type: application/json\x60"
  | tooLarge => "Failed to buffer the request body: length limit exceeded"
  | malformed => "Failed to parse the request body as JSON"
  | misshapen place error =>
    "Failed to deserialize the JSON body into the target type: " ++
      (if place.isEmpty then "" else Problem.placeText place ++ ": ") ++ error.message

def response (error : BodyError) : Response :=
  .ofText error.status error.message

/-- The problem of a document in a body. -/
def ofProblem : Problem → BodyError
  | .malformed => malformed
  | .misshapen place error => misshapen place error

end BodyError

namespace Request

/-- The request announces a JSON document. -/
def announcesJson (request : Request) : Bool :=
  match request.header? "content-type" with
  | some value => (MediaType.parse? value.toList).any MediaType.isJson
  | none => false

/-- Reads the document in the body. -/
def readBody {α : Type} (request : Request) (maxSize : Nat) (read : Node → Reading α) :
    Except BodyError α :=
  if !request.announcesJson then .error .mediaType
  else if maxSize < request.body.length then .error .tooLarge
  else
    ((Document.ofSource (Text.decodeUtf8 request.body)).readRoot read).mapError BodyError.ofProblem

end Request

end TransactionLedger.Http
