import TransactionLedger.Filter.Basic
import TransactionLedger.Sql.Error
import TransactionLedger.Sql.Pattern
import TransactionLedger.Sql.Payload
import Std.Data.TreeMap.Basic

/-!
# Evaluating conditions

Whether a condition holds in a row. A comparison with null does not hold; since no condition is ever
negated, it makes no difference whether it is false or unknown. Conditions are evaluated from left
to right, and only as far as is needed to decide.
-/

namespace TransactionLedger

open TransactionLedger.Filter TransactionLedger.Sql

/-- A bound value in the database. -/
def Sql.Value.ofBind : BindValue → Value
  | .null => .null
  | .integer value => .integer value
  | .real value => .real value
  | .text value => .text value

/-- What the operands of a condition stand for. -/
structure Sql.Scope where
  column : Column → Value
  bindings : Std.TreeMap String Value

/-- The value of a placeholder; one without a binding is null. -/
def Sql.Scope.placeholder (scope : Scope) (name : String) : Value :=
  scope.bindings.getD name .null

namespace Filter

/-- The value of an operand. -/
def Operand.evaluate (scope : Scope) : Operand → Except SqlError Value
  | column which => .ok (scope.column which)
  | placeholder name => .ok (scope.placeholder name)
  | extract source path => do
    match Payload.part? path (← source.evaluate scope) with
    | some value => return value
    | none => .error .malformedPayload

namespace Relation

/-- The two values compare in one of the given ways. -/
def orderIn (accepted : List Ordering) (lhs rhs : Value) : Bool :=
  match lhs.order? rhs with
  | some order => accepted.contains order
  | none => false

/-- The value matches the pattern. -/
def likeHolds (value pattern : Value) : Except SqlError Bool :=
  match pattern.textForm? with
  | none => .ok false
  | some pattern =>
    if Pattern.byteLimit < (String.ofList pattern).utf8ByteSize then .error .patternTooComplex
    else
      match value.textForm? with
      | none => .ok false
      | some text => .ok (Pattern.accepts pattern text)

/-- The relation holds between two values. -/
def holds : Relation → Value → Value → Except SqlError Bool
  | equal, lhs, rhs => .ok (orderIn [.eq] lhs rhs)
  | greater, lhs, rhs => .ok (orderIn [.gt] lhs rhs)
  | less, lhs, rhs => .ok (orderIn [.lt] lhs rhs)
  | atLeast, lhs, rhs => .ok (orderIn [.gt, .eq] lhs rhs)
  | atMost, lhs, rhs => .ok (orderIn [.lt, .eq] lhs rhs)
  | like, lhs, rhs => likeHolds lhs rhs

end Relation

/-- The value is one of those listed. -/
def isOneOf (scope : Scope) (value : Value) : List Operand → Except SqlError Bool
  | [] => .ok false
  | choice :: rest => do
    if ← Relation.holds .equal value (← choice.evaluate scope) then return true
    else isOneOf scope value rest

/-- The condition holds in a row. -/
def Condition.holds (scope : Scope) : Condition → Except SqlError Bool
  | compare lhs relation rhs => do
    relation.holds (← lhs.evaluate scope) (← rhs.evaluate scope)
  | between subject low high => do
    let value ← subject.evaluate scope
    if ← Relation.holds .atLeast value (← low.evaluate scope) then
      Relation.holds .atMost value (← high.evaluate scope)
    else return false
  | oneOf subject choices => do isOneOf scope (← subject.evaluate scope) choices
  | both lhs rhs => do if ← lhs.holds scope then rhs.holds scope else return false
  | either lhs rhs => do if ← lhs.holds scope then return true else rhs.holds scope
  | group inner => inner.holds scope

/-- The values of the placeholders. -/
def bindings (filter : Filter) : Std.TreeMap String Value :=
  .ofList (filter.values.map fun value => (value.1, Value.ofBind value.2))

/-- Judges a row by the filter. -/
def accepts (filter : Filter) (row : Column → Value) : Except SqlError Bool :=
  match filter.condition with
  | some condition => condition.holds ⟨row, filter.bindings⟩
  | none => .ok true

/-- The filter lets the row pass. -/
def passes (filter : Filter) (row : Column → Value) : Bool :=
  match filter.accepts row with
  | .ok holds => holds
  | .error _ => false

end Filter

end TransactionLedger
