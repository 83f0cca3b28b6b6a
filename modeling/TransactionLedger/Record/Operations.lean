import TransactionLedger.Record.SearchDocument
import TransactionLedger.Store.Database

/-!
# Creating and finding records

The operations of the ledger on documents. A request with a fault is refused before the store is
asked. What is created is given back with its id and its event time in the form that leaves the
ledger; the insert time is only seen when the record is found again.
-/

namespace TransactionLedger.Record

open Timestamp

/-- Why an operation fails. -/
inductive OperationError
  | request (error : RequestError)
  | store (error : Store.StoreError)
  deriving DecidableEq, Repr

/-- The cells of a new row. -/
def newCells (uniqueId : String) (eventTime : Instant) (eventType : String) (data : Json.Members)
    (now : Instant) : Store.Cells where
  uniqueId := .text uniqueId
  insertTimestamp := .text now.stored
  eventTimestamp := .text eventTime.stored
  eventType := .text eventType
  data := .text (Json.object data).render

/-- Adds a record to the ledger, and gives its id back. -/
def append (uniqueId : String) (eventTime : Instant) (eventType : String) (data : Json.Members)
    (now : Instant) : Store.Action Int :=
  Store.Database.append (newCells uniqueId eventTime eventType data now)

namespace RecordDocument

def ofEntry (entry : Store.Entry) : RecordDocument where
  transactionRecordId := some entry.id
  uniqueId := entry.uniqueId
  insertTimestamp := some entry.insertTime.iso
  eventTimestamp := entry.eventTime.iso
  eventType := entry.eventType
  data := entry.data

/-- The document of a record that has just been created. -/
def created (document : RecordDocument) (id : Int) (eventTime : Instant) : RecordDocument :=
  { document with
    transactionRecordId := some id, insertTimestamp := none, eventTimestamp := eventTime.iso }

end RecordDocument

def create (document : RecordDocument) (now : Instant) (database : Store.Database) :
    Except OperationError RecordDocument × Store.Database :=
  match readInstant "eventTimestamp" document.eventTimestamp with
  | .error error => (.error (.request error), database)
  | .ok eventTime =>
    match append document.uniqueId eventTime document.eventType document.data now database with
    | (.error error, database) => (.error (.store error), database)
    | (.ok id, database) => (.ok (document.created id eventTime), database)

/-- The documents of the entries that pass a filter. -/
def documents (filter : Filter) (database : Store.Database) :
    Except OperationError (List RecordDocument) :=
  match database.select filter with
  | .error error => .error (.store error)
  | .ok entries => .ok (entries.map RecordDocument.ofEntry)

/-- All records with exactly this id. -/
def history (id : String) (database : Store.Database) :
    Except OperationError (List RecordDocument) :=
  documents (.ofId id) database

/-- The records that a search document asks for. -/
def search (document : SearchDocument) (database : Store.Database) :
    Except OperationError (List RecordDocument) := do
  let search ← document.toSearch.mapError .request
  documents (.ofSearch search) database

def listJson (documents : List RecordDocument) : Json :=
  .array (documents.map RecordDocument.toJson)

end TransactionLedger.Record
