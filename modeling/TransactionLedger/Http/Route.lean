import TransactionLedger.Http.Target

/-!
# Routes

The resources that can be requested, the paths that lead to them and the methods that they allow.
-/

namespace TransactionLedger.Http

/-- A resource. -/
inductive Route
  | records
  | search
  /-- The records with one id; the segment of the path is still encoded. -/
  | history (segment : List Char)
  | health
  | liveness
  | readiness
  deriving DecidableEq, Repr

namespace Route

/-- The first segment of the paths of records. -/
def recordsSegment : String := "transactionRecords"

def ofPath? (path : List Char) : Option Route :=
  match segments? path with
  | some [first] =>
    if first = recordsSegment.toList then some records
    else if first = "health".toList then some health
    else none
  | some [first, second] =>
    if first = recordsSegment.toList then
      if second.isEmpty then none
      else if second = "search".toList then some search
      else some (history second)
    else if first = "health".toList then
      if second = "live".toList then some liveness
      else if second = "ready".toList then some readiness
      else none
    else none
  | _ => none

/-- The resource is written to, and not read. -/
def takesPost : Route → Bool
  | records => true
  | search => true
  | _ => false

/-- The methods that a resource allows. -/
def allowed (route : Route) : List String :=
  if route.takesPost then ["POST"] else ["GET", "HEAD"]

end Route

end TransactionLedger.Http
