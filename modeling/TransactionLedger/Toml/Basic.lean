/-!
# TOML values

The values of a TOML document. Each value knows where it starts, counted in characters from the
start of the document, so that a reader can report the place of a value that it cannot use. Numbers
with a point and times are only told apart from the other kinds.
-/

namespace TransactionLedger.Toml

/-- How a table has come about. -/
inductive TableKind
  /-- By its own header. -/
  | headed
  /-- As part of the path of a header. -/
  | implied
  /-- As part of a dotted key. -/
  | dotted
  /-- As a value between braces. -/
  | inline
  deriving DecidableEq, Repr

/-- A value of a document. -/
inductive Value
  | string (place : Nat) (text : String)
  | integer (place : Nat) (value : Int)
  | float (place : Nat)
  | bool (place : Nat) (value : Bool)
  | time (place : Nat)
  | array (place : Nat) (items : List Value)
  | table (place : Nat) (kind : TableKind) (members : List (String × Value))
  /-- Tables with headers in double brackets. -/
  | tables (place : Nat) (items : List Value)
  deriving Repr

/-- The members of a table. -/
abbrev Members := List (String × Value)

/-- Where a value starts. -/
def Value.place : Value → Nat
  | string place _ => place
  | integer place _ => place
  | float place => place
  | bool place _ => place
  | time place => place
  | array place _ => place
  | table place _ _ => place
  | tables place _ => place

end TransactionLedger.Toml
