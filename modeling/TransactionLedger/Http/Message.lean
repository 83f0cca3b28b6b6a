import TransactionLedger.Json.Printer

/-!
# Requests and responses

The parts of requests that answers depend on, and the answers. The characters of a header value
stand for single bytes.
-/

namespace TransactionLedger.Http

/-- A request. -/
structure Request where
  method : String
  target : String
  headers : List (String × String)
  body : List UInt8
  deriving Repr

/-- A response. -/
structure Response where
  status : Nat
  headers : List (String × String)
  body : String
  deriving DecidableEq, Repr

namespace Request

/-- The first value of a header. -/
def header? (request : Request) (name : String) : Option String :=
  (request.headers.find? fun header =>
    header.1.toList.map Char.toLower == name.toList).map Prod.snd

end Request

namespace Response

/-- A response without headers and body. -/
def ofStatus (status : Nat) : Response :=
  ⟨status, [], ""⟩

/-- A JSON document. -/
def ofJson (status : Nat) (value : Json) : Response :=
  ⟨status, [("content-type", "application/json")], value.render⟩

def ofText (status : Nat) (text : String) : Response :=
  ⟨status, [("content-type", "text/plain; charset=utf-8")], text⟩

def withHeader (response : Response) (name value : String) : Response :=
  { response with headers := response.headers ++ [(name, value)] }

def withoutBody (response : Response) : Response :=
  { response with body := "" }

end Response

end TransactionLedger.Http
