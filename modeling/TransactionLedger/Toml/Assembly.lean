import TransactionLedger.Toml.Basic

/-!
# Building tables

A document is built from its headers and assignments one after the other. No key is assigned twice,
no table is opened twice by a header, and neither headers nor dotted keys reach into tables that
were completed in another way.
-/

namespace TransactionLedger.Toml

/-- A table under construction. -/
structure Table where
  place : Nat
  kind : TableKind
  members : Members
  deriving Repr

namespace Table

def value (table : Table) : Value :=
  .table table.place table.kind table.members

/-- The value of a key. -/
def find? (table : Table) (key : String) : Option Value :=
  (table.members.find? fun member => member.1 == key).map Prod.snd

/-- Adds a member at the end. -/
def add (table : Table) (key : String) (value : Value) : Table :=
  { table with members := table.members ++ [(key, value)] }

/-- Replaces the value of a key. -/
def replace (table : Table) (key : String) (value : Value) : Table :=
  { table with
    members := table.members.map fun member => if member.1 == key then (key, value) else member }

/-- A table can be entered by the path of a header or, if `byDots`, by a dotted key. -/
def mayEnter (byDots : Bool) : TableKind → Bool
  | .headed => !byDots
  | .implied => true
  | .dotted => true
  | .inline => false

/-- Changes the table at the end of a path. Missing tables are made on the way; of several tables
under one name the last one is meant. Nothing is returned if the path is closed. -/
def changeAt? (byDots : Bool) (place : Nat) (change : Table → Option Table) :
    List String → Table → Option Table
  | [], table => change table
  | key :: rest, table => do
    match table.find? key with
    | none =>
      let child : Table := ⟨place, if byDots then .dotted else .implied, []⟩
      return table.add key (← changeAt? byDots place change rest child).value
    | some (.table start kind members) =>
      if mayEnter byDots kind then
        return table.replace key (← changeAt? byDots place change rest ⟨start, kind, members⟩).value
      else none
    | some (.tables start items) =>
      match items.getLast? with
      | some (.table inner kind members) =>
        if mayEnter byDots kind then
          let last ← changeAt? byDots place change rest ⟨inner, kind, members⟩
          return table.replace key (.tables start (items.dropLast ++ [last.value]))
        else none
      | _ => none
    | some _ => none

/-- Assigns a key that has no value yet. -/
def assignHere? (throughDots : Bool) (key : String) (value : Value) (table : Table) :
    Option Table :=
  if throughDots ≠ (table.kind == .dotted) then none
  else if (table.find? key).isSome then none
  else some (table.add key value)

/-- Assigns the key at the end of a dotted path. -/
def assign? (place : Nat) (path : List String) (key : String) (value : Value) (table : Table) :
    Option Table :=
  changeAt? true place (assignHere? (!path.isEmpty) key value) path table

/-- Opens the table of a header. -/
def openHere? (place : Nat) (key : String) (table : Table) : Option Table :=
  match table.find? key with
  | none => some (table.add key (.table place .headed []))
  | some (.table _ .implied members) => some (table.replace key (.table place .headed members))
  | some _ => none

/-- Opens one more table under the name of a header in double brackets. -/
def extendHere? (place : Nat) (key : String) (table : Table) : Option Table :=
  match table.find? key with
  | none => some (table.add key (.tables place [.table place .headed []]))
  | some (.tables start items) =>
    some (table.replace key (.tables start (items ++ [.table place .headed []])))
  | some _ => none

end Table

/-- A statement of a document. -/
inductive Statement
  | assign (place : Nat) (path : List String) (key : String) (value : Value)
  | header (place : Nat) (path : List String) (key : String)
  | arrayHeader (place : Nat) (path : List String) (key : String)
  deriving Repr

/-- A document under construction: its root, and the path of the table that is open. -/
structure Draft where
  root : Table
  opened : List String
  deriving Repr

namespace Draft

def empty : Draft :=
  ⟨⟨0, .headed, []⟩, []⟩

/-- Adds a statement; the place of one that does not fit is given back. -/
def add (draft : Draft) : Statement → Except Nat Draft
  | .assign place path key value =>
    let change := Table.assign? place path key value
    match Table.changeAt? false place change draft.opened draft.root with
    | some root => .ok { draft with root }
    | none => .error place
  | .header place path key =>
    match Table.changeAt? false place (Table.openHere? place key) path draft.root with
    | some root => .ok ⟨root, path ++ [key]⟩
    | none => .error place
  | .arrayHeader place path key =>
    match Table.changeAt? false place (Table.extendHere? place key) path draft.root with
    | some root => .ok ⟨root, path ++ [key]⟩
    | none => .error place

def addAll (draft : Draft) : List Statement → Except Nat Draft
  | [] => .ok draft
  | statement :: rest => do addAll (← draft.add statement) rest

end Draft

end TransactionLedger.Toml
