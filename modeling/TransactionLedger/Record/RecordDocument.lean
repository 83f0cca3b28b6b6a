import TransactionLedger.Json.Shape

/-!
# Record documents

A record as callers write and read it. The id and the insert time are given by the ledger; a caller
may state them, but nothing depends on them.
-/

namespace TransactionLedger.Record

open Json

/-- A record as a JSON document. -/
structure RecordDocument where
  transactionRecordId : Option Int
  uniqueId : String
  insertTimestamp : Option String
  eventTimestamp : String
  eventType : String
  data : Members
  deriving Repr

/-- The fields of a record document read so far. -/
structure RecordDraft where
  transactionRecordId : Option Int := none
  uniqueId : Option String := none
  insertTimestamp : Option String := none
  eventTimestamp : Option String := none
  eventType : Option String := none
  data : Members := []

namespace RecordDraft

/-- Takes over a field. -/
def take (room : Nat) (field : String) (node : Node) (draft : RecordDraft) :
    Reading RecordDraft :=
  match field with
  | "transactionRecordId" => do
    return { draft with transactionRecordId := ← node.readOptional Node.readSigned }
  | "uniqueId" => do return { draft with uniqueId := some (← node.readString) }
  | "insertTimestamp" => do
    return { draft with insertTimestamp := ← node.readOptional Node.readString }
  | "eventTimestamp" => do return { draft with eventTimestamp := some (← node.readString) }
  | "eventType" => do return { draft with eventType := some (← node.readString) }
  | "data" => do return { draft with data := ← node.readObject room }
  | _ => .ok draft

/-- The record document, or the first field that it lacks. -/
def finish (draft : RecordDraft) : Except String RecordDocument :=
  match draft.uniqueId, draft.eventTimestamp, draft.eventType with
  | none, _, _ => .error "uniqueId"
  | _, none, _ => .error "eventTimestamp"
  | _, _, none => .error "eventType"
  | some uniqueId, some eventTimestamp, some eventType =>
    .ok ⟨draft.transactionRecordId, uniqueId, draft.insertTimestamp, eventTimestamp, eventType,
      draft.data⟩

end RecordDraft

namespace RecordDocument

/-- How a record document is read. -/
def shape : RecordShape RecordDraft RecordDocument where
  name := "TransactionRecordDto"
  fields := ["transactionRecordId", "uniqueId", "insertTimestamp", "eventTimestamp", "eventType",
    "data"]
  empty := {}
  take := RecordDraft.take
  optional field := field == "transactionRecordId" || field == "insertTimestamp" || field == "data"
  finish := RecordDraft.finish

def read (node : Node) : Reading RecordDocument :=
  shape.read Node.nestingLimit node

/-- Reads a text that holds a record document and nothing else. -/
def parse (text : String) : Reading RecordDocument :=
  (Document.ofText text).readAll read

/-- A member that is left out when it has no value. -/
def optionalMember {α : Type} (key : String) (toJson : α → Json) : Option α → Members
  | some value => [(key, toJson value)]
  | none => []

def toJson (record : RecordDocument) : Json :=
  .object <|
    optionalMember "transactionRecordId" (fun id => .number (.integer id))
      record.transactionRecordId ++
    ("uniqueId", .string record.uniqueId) ::
    optionalMember "insertTimestamp" .string record.insertTimestamp ++
    [("eventTimestamp", .string record.eventTimestamp), ("eventType", .string record.eventType),
      ("data", .object record.data)]

def render (record : RecordDocument) : String :=
  record.toJson.render

end RecordDocument

end TransactionLedger.Record
