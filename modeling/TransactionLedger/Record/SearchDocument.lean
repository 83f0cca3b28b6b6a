import TransactionLedger.Query.DraftReader
import TransactionLedger.Query.Search
import TransactionLedger.Record.RecordDocument
import TransactionLedger.Timestamp.Parser

/-!
# Search documents

A search as callers write it. Converting it reads the bounds, from the event time to the insert time
and in each from the earliest to the latest, and then checks the expression; the first fault is
reported.
-/

namespace TransactionLedger.Record

open Json

/-- Bounds of a time as text. -/
structure RangeDocument where
  earliest : Option String := none
  latest : Option String := none
  deriving DecidableEq, Repr

/-- A search as a JSON document. -/
structure SearchDocument where
  uniqueIdLike : Option String := none
  eventTypes : Option (List String) := none
  eventTimestamp : Option RangeDocument := none
  insertTimestamp : Option RangeDocument := none
  dataQueryExpression : Option Query.Draft := none
  deriving Repr

namespace RangeDocument

/-- Takes over a bound. -/
def take (_ : Nat) (field : String) (node : Node) (range : RangeDocument) :
    Reading RangeDocument :=
  match field with
  | "from" => do return { range with earliest := ← node.readOptional Node.readString }
  | "to" => do return { range with latest := ← node.readOptional Node.readString }
  | _ => .ok range

/-- How the bounds of a time are read. -/
def shape : RecordShape RangeDocument RangeDocument where
  name := "TimestampRangeDto"
  fields := ["from", "to"]
  empty := {}
  take := take
  optional _ := true
  finish := .ok

def toJson (range : RangeDocument) : Json :=
  .object (RecordDocument.optionalMember "from" .string range.earliest ++
    RecordDocument.optionalMember "to" .string range.latest)

end RangeDocument

namespace SearchDocument

/-- Takes over a criterion. -/
def take (room : Nat) (field : String) (node : Node) (search : SearchDocument) :
    Reading SearchDocument :=
  match field with
  | "uniqueIdLike" => do
    return { search with uniqueIdLike := ← node.readOptional Node.readString }
  | "eventTypes" => do
    return { search with
      eventTypes := ← node.readOptional (Node.readList room Node.readString) }
  | "eventTimestamp" => do
    return { search with eventTimestamp := ← node.readOptional (RangeDocument.shape.read room) }
  | "insertTimestamp" => do
    return { search with insertTimestamp := ← node.readOptional (RangeDocument.shape.read room) }
  | "dataQueryExpression" => do
    return { search with dataQueryExpression := ← node.readOptional (Query.Draft.read room) }
  | _ => .ok search

/-- How a search document is read. -/
def shape : RecordShape SearchDocument SearchDocument where
  name := "TransactionRecordQueryDto"
  fields := ["uniqueIdLike", "eventTypes", "eventTimestamp", "insertTimestamp",
    "dataQueryExpression"]
  empty := {}
  take := take
  optional _ := true
  finish := .ok

def read (node : Node) : Reading SearchDocument :=
  shape.read Node.nestingLimit node

/-- Reads a text that holds a search document and nothing else. -/
def parse (text : String) : Reading SearchDocument :=
  (Document.ofText text).readAll read

def toJson (search : SearchDocument) : Json :=
  .object <|
    RecordDocument.optionalMember "uniqueIdLike" .string search.uniqueIdLike ++
    RecordDocument.optionalMember "eventTypes" (fun types => .array (types.map .string))
      search.eventTypes ++
    RecordDocument.optionalMember "eventTimestamp" RangeDocument.toJson search.eventTimestamp ++
    RecordDocument.optionalMember "insertTimestamp" RangeDocument.toJson search.insertTimestamp ++
    RecordDocument.optionalMember "dataQueryExpression" Query.Draft.toJson
      search.dataQueryExpression

def render (search : SearchDocument) : String :=
  search.toJson.render

end SearchDocument

/-- Why a request is refused before the store is asked. -/
inductive RequestError
  | expression (error : Query.QueryError)
  | timestamp (field : String) (error : Timestamp.TimestampError)
  deriving DecidableEq, Repr

namespace RequestError

def message : RequestError → String
  | expression error => error.message
  | timestamp field error => "Invalid timestamp for '" ++ field ++ "': " ++ error.message

end RequestError

/-- The instant that a field states. -/
def readInstant (field text : String) : Except RequestError Timestamp.Instant :=
  (Timestamp.Instant.parse text).mapError (.timestamp field)

/-- The instant that an optional field states. -/
def readBound (field : String) : Option String → Except RequestError (Option Timestamp.Instant)
  | some text => some <$> readInstant field text
  | none => .ok none

/-- The bounds that an optional range states. -/
def readRange (field : String) :
    Option RangeDocument → Except RequestError (Option Query.TimeRange)
  | some range => do
    let earliest ← readBound (field ++ ".from") range.earliest
    let latest ← readBound (field ++ ".to") range.latest
    return some ⟨earliest, latest⟩
  | none => .ok none

/-- The expression that an optional draft states. -/
def readExpression : Option Query.Draft → Except RequestError (Option Query.Expression)
  | some draft => some <$> draft.check.mapError .expression
  | none => .ok none

namespace SearchDocument

/-- The search that a document states. -/
def toSearch (document : SearchDocument) : Except RequestError Query.Search := do
  let eventTime ← readRange "eventTimestamp" document.eventTimestamp
  let insertTime ← readRange "insertTimestamp" document.insertTimestamp
  let expression ← readExpression document.dataQueryExpression
  return { idFragment := document.uniqueIdLike, eventTypes := document.eventTypes,
           eventTime, insertTime, expression }

end SearchDocument

end TransactionLedger.Record
