import TransactionLedger.Query.Error
import TransactionLedger.Query.FieldPath
import TransactionLedger.Json.Printer

/-!
# Search expressions

An expression over payloads is a tree: its leaves compare one field with one value, its inner nodes
join two expressions. Only what can be searched for is an expression: the operators are those of the
two lists, the fields are paths, and every value has the shape that its operator needs.
-/

namespace TransactionLedger.Query

namespace Operator

/-- The operator can compare a field with the value. -/
def accepts : Operator → Json → Bool
  | between, .array [low, high] => low.isScalar && high.isScalar
  | between, _ => false
  | like, .string _ => true
  | like, _ => false
  | _, value => value.isScalar

/-- What the operator needs for a value. -/
def requirement : Operator → String
  | between => "expected a [low, high] pair of scalars"
  | like => "expected a string pattern"
  | _ => "expected a string, number or boolean"

end Operator

/-- A leaf: a field is compared with a value. -/
structure Comparison where
  field : FieldPath
  operator : Operator
  value : Json
  deriving Repr

/-- A search expression. -/
inductive Expression
  | leaf (comparison : Comparison)
  | combine (lhs : Expression) (combinator : Combinator) (rhs : Expression)
  deriving Repr

namespace Comparison

/-- A comparison of a named field, if the name is a path and the operator accepts the value. Errors
show the given expression. -/
def check (field : String) (operator : Operator) (value : Json) (expression : String) :
    Except QueryError Comparison :=
  match FieldPath.parse? field with
  | none => .error (.invalidField field expression)
  | some path =>
    if operator.accepts value then .ok ⟨path, operator, value⟩
    else .error (.invalidValue operator.symbol operator.requirement expression)

end Comparison

namespace Expression

/-- A leaf, checked on its own; errors show the leaf. -/
def compare (field : String) (operator : Operator) (value : Json) :
    Except QueryError Expression :=
  (Comparison.check field operator value
    (field ++ " " ++ operator.symbol ++ " " ++ value.render)).map leaf

/-- The leaves from left to right. -/
def leaves : Expression → List Comparison
  | leaf comparison => [comparison]
  | combine lhs _ rhs => lhs.leaves ++ rhs.leaves

/-- The number of leaves. -/
def leafCount : Expression → Nat
  | leaf _ => 1
  | combine lhs _ rhs => lhs.leafCount + rhs.leafCount

@[simp] theorem length_leaves (expression : Expression) :
    expression.leaves.length = expression.leafCount := by
  induction expression with
  | leaf comparison => rfl
  | combine lhs combinator rhs lhsLength rhsLength =>
    simp [leaves, leafCount, lhsLength, rhsLength]

/-- An expression has a leaf. -/
theorem leafCount_pos (expression : Expression) : 0 < expression.leafCount := by
  induction expression with
  | leaf comparison => exact Nat.one_pos
  | combine lhs combinator rhs lhsPos rhsPos => simp only [leafCount]; omega

end Expression

end TransactionLedger.Query
