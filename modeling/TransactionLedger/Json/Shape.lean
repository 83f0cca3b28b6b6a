import TransactionLedger.Json.Node
import TransactionLedger.Json.Printer
import TransactionLedger.Json.Spelling
import TransactionLedger.Text.Quoted

/-!
# Reading documents into shapes

A reader walks through a document from left to right and stops at the first problem: either the
document is malformed there, or its form is right and its shape is not. A shape problem knows the
way from the root to the place.
-/

namespace TransactionLedger.Json

/-- What stands where something else was expected. -/
inductive Found
  | integer (value : Int)
  | real (value : Decimal.Binary64)
  | string (value : String)
  | bool (value : Bool)
  | null
  | sequence
  | map
  deriving DecidableEq, Repr

namespace Found

/-- How a diagnostic names it. -/
def description : Found → String
  | integer value => "integer `" ++ String.ofList (Text.decimalInt value) ++ "`"
  | real value => "floating point `" ++ String.ofList (Number.realText value) ++ "`"
  | string value => "string " ++ Text.diagnostic value
  | bool value => "boolean `" ++ (if value then "true" else "false") ++ "`"
  | null => "null"
  | sequence => "sequence"
  | map => "map"

end Found

/-- What is wrong with the shape of a document. -/
inductive ShapeError
  | missingField (name : String)
  | duplicateField (name : String)
  | wrongKind (found : Found) (expected : String)
  | outOfRange (found : Found) (expected : String)
  | tooShort (length : Nat) (record : String) (fields : Nat)
  | noAlternative (name : String)
  deriving DecidableEq, Repr

namespace ShapeError

def message : ShapeError → String
  | missingField name => "missing field `" ++ name ++ "`"
  | duplicateField name => "duplicate field `" ++ name ++ "`"
  | wrongKind found expected => "invalid type: " ++ found.description ++ ", expected " ++ expected
  | outOfRange found expected => "invalid value: " ++ found.description ++ ", expected " ++ expected
  | tooShort length record fields =>
    "invalid length " ++ String.ofList (Text.decimal length) ++ ", expected struct " ++ record ++
      " with " ++ String.ofList (Text.decimal fields) ++ " elements"
  | noAlternative name => "data did not match any variant of untagged enum " ++ name

end ShapeError

/-- A step on the way from the root to a place in a document. -/
inductive Step
  | field (name : String)
  | index (position : Nat)
  deriving DecidableEq, Repr

/-- The first problem of a document. -/
inductive Problem
  /-- The document is malformed, or nested too deeply. -/
  | malformed
  /-- The document is well-formed up to the place, but has the wrong shape there. -/
  | misshapen (place : List Step) (error : ShapeError)
  deriving DecidableEq, Repr

namespace Problem

/-- A place as diagnostics write it. -/
def placeText : List Step → String
  | [] => ""
  | .field name :: rest =>
    name ++ (match rest with
      | .field _ :: _ => "."
      | _ => "") ++ placeText rest
  | .index position :: rest =>
    "[" ++ String.ofList (Text.decimal position) ++ "]" ++ (match rest with
      | .field _ :: _ => "."
      | _ => "") ++ placeText rest

/-- The problem, seen from one step further out. -/
def within (step : Step) : Problem → Problem
  | malformed => malformed
  | misshapen place error => misshapen (step :: place) error

end Problem

/-- The outcome of reading. -/
abbrev Reading := Except Problem

namespace Reading

/-- A shape problem at the place itself. -/
def misshapen {α : Type} (error : ShapeError) : Reading α :=
  .error (.misshapen [] error)

/-- Reads one step further in. -/
def within {α : Type} (step : Step) (reading : Reading α) : Reading α :=
  reading.mapError (Problem.within step)

/-- The document must be well-formed here. -/
def require (wellFormed : Bool) : Reading Unit :=
  if wellFormed then .ok () else .error .malformed

end Reading

/-- The value of a numeral; a number beyond the largest one is malformed. -/
def Numeral.read (numeral : Numeral) : Reading Number :=
  match numeral.value? with
  | some value => .ok value
  | none => .error .malformed

/-- The text of a string. -/
def readSpelling (spelling : Source) : Reading String :=
  match spelledText? spelling with
  | some text => .ok text
  | none => .error .malformed

namespace Node

/-- The deepest nesting of arrays and objects that is read. -/
def nestingLimit : Nat := 127

/-- Names what stands here in place of something else. -/
def found : Node → Reading Found
  | null => .ok .null
  | bool value => .ok (.bool value)
  | number numeral => do
    match ← numeral.read with
    | .integer value => return .integer value
    | .real value => return .real value
  | string spelling => return .string (← readSpelling spelling)
  | array _ _ => .ok .sequence
  | object _ _ => .ok .map
  | broken => .error .malformed

/-- Refuses what stands here. -/
def refuse {α : Type} (node : Node) (expected : String) : Reading α := do
  Reading.misshapen (.wrongKind (← node.found) expected)

def readString : Node → Reading String
  | string spelling => readSpelling spelling
  | node => node.refuse "a string"

/-- Reads an integer of 64 bits with a sign. -/
def readSigned : Node → Reading Int
  | number numeral => do
    match ← numeral.read with
    | .integer value =>
      if IsSigned value then return value
      else Reading.misshapen (.outOfRange (.integer value) "i64")
    | .real value => Reading.misshapen (.wrongKind (.real value) "i64")
  | node => node.refuse "i64"

/-- Reads a value that may be absent. -/
def readOptional {α : Type} (read : Node → Reading α) : Node → Reading (Option α)
  | null => .ok none
  | node => some <$> read node

/-- Passes over a value that nobody needs; only its form is checked. -/
def skip (node : Node) : Reading Unit :=
  Reading.require node.isWhole

mutual

/-- Reads a free-form value with room for some more levels of nesting. In an object the last of
several members with the same key counts. -/
def readValue (room : Nat) : Node → Reading Json
  | null => .ok .null
  | bool value => .ok (.bool value)
  | number numeral => return .number (← numeral.read)
  | string spelling => return .string (← readSpelling spelling)
  | array items closed =>
    match room with
    | 0 => .error .malformed
    | room + 1 => do
      let items ← readItems room items
      Reading.require closed
      return .array items
  | object members closed =>
    match room with
    | 0 => .error .malformed
    | room + 1 => do
      let members ← readMembers room [] members
      Reading.require closed
      return .object members
  | broken => .error .malformed

/-- Reads the items of an array. -/
def readItems (room : Nat) : List Node → Reading (List Json)
  | [] => .ok []
  | item :: rest => do
    let item ← readValue room item
    let rest ← readItems room rest
    return item :: rest

/-- Reads the members of an object onto those in front of them. -/
def readMembers (room : Nat) (done : Members) : List (Source × Node) → Reading Members
  | [] => .ok done
  | (key, value) :: rest => do
    let key ← readSpelling key
    let value ← readValue room value
    readMembers room (done.insert key value) rest

end

/-- Reads a free-form object. -/
def readObject (room : Nat) : Node → Reading Members
  | object members closed =>
    match room with
    | 0 => .error .malformed
    | room + 1 => do
      let members ← readMembers room [] members
      Reading.require closed
      return members
  | node => node.refuse "a map"

/-- Reads the items of a list, each at its position. -/
def readEach {α : Type} (read : Node → Reading α) (position : Nat) :
    List Node → Reading (List α)
  | [] => .ok []
  | item :: rest => do
    let item ← (read item).within (.index position)
    let rest ← readEach read (position + 1) rest
    return item :: rest

def readList {α : Type} (room : Nat) (read : Node → Reading α) : Node → Reading (List α)
  | array items closed =>
    match room with
    | 0 => .error .malformed
    | _ + 1 => do
      let items ← readEach read 0 items
      Reading.require closed
      return items
  | node => node.refuse "a sequence"

end Node

/-- How a record with named fields is read. Fields are taken over one by one into a draft, from
which the record is made in the end. -/
structure RecordShape (Draft Result : Type) where
  name : String
  fields : List String
  /-- The draft before any field is read. -/
  empty : Draft
  /-- Takes over the value of a field, read with room for some more levels of nesting. -/
  take : Nat → String → Node → Draft → Reading Draft
  /-- A field may be missing. -/
  optional : String → Bool
  /-- The record, or the first field that it lacks. -/
  finish : Draft → Except String Result

namespace RecordShape

variable {Draft Result : Type}

/-- Takes over the members of an object. A known key must not come twice; a member with an unknown
key is passed over. -/
def takeMembers (shape : RecordShape Draft Result) (room : Nat) (seen : List String)
    (draft : Draft) : List (Source × Node) → Reading Draft
  | [] => .ok draft
  | (key, value) :: rest => do
    let key ← readSpelling key
    if shape.fields.contains key then
      if seen.contains key then Reading.misshapen (.duplicateField key)
      else
        let draft ← (shape.take room key value draft).within (.field key)
        shape.takeMembers room (key :: seen) draft rest
    else
      value.skip
      shape.takeMembers room seen draft rest

/-- Takes over the items of an array as the fields in their order. Where the array ends early, only
fields that may be missing may be left. -/
def takeItems (shape : RecordShape Draft Result) (room : Nat) (closed : Bool) (position : Nat)
    (draft : Draft) : List String → List Node → Reading Draft
  | [], items => do
    Reading.require (items.isEmpty && closed)
    return draft
  | field :: fields, [] => do
    Reading.require closed
    if shape.optional field then shape.takeItems room closed (position + 1) draft fields []
    else Reading.misshapen (.tooShort position shape.name shape.fields.length)
  | field :: fields, item :: items => do
    let draft ← (shape.take room field item draft).within (.index position)
    shape.takeItems room closed (position + 1) draft fields items

/-- Makes the record from its draft. -/
def close (shape : RecordShape Draft Result) (draft : Draft) : Reading Result :=
  match shape.finish draft with
  | .ok result => .ok result
  | .error field => Reading.misshapen (.missingField field)

/-- Reads a record from an object or an array. -/
def read (shape : RecordShape Draft Result) (room : Nat) : Node → Reading Result
  | .object members closed =>
    match room with
    | 0 => .error .malformed
    | room + 1 => do
      let draft ← shape.takeMembers room [] shape.empty members
      Reading.require closed
      shape.close draft
  | .array items closed =>
    match room with
    | 0 => .error .malformed
    | room + 1 => do
      let draft ← shape.takeItems room closed 0 shape.empty shape.fields items
      shape.close draft
  | node => node.refuse ("struct " ++ shape.name)

end RecordShape

namespace Document

/-- Reads the value of a document, whatever follows it. -/
def readRoot {α : Type} (document : Document) (read : Node → Reading α) : Reading α :=
  read document.root

/-- Reads a document that holds one value and nothing else. -/
def readAll {α : Type} (document : Document) (read : Node → Reading α) : Reading α := do
  let value ← read document.root
  Reading.require !document.hasMore
  return value

end Document

/-- Reads a text that holds one free-form value and nothing else. -/
def parse (text : String) : Reading Json :=
  (Document.ofText text).readAll (Node.readValue Node.nestingLimit)

end TransactionLedger.Json
