import TransactionLedger.Query.Expression

/-!
# Drafts of expressions

A draft is an expression as a request states it: names and values are still as given. Checking a
draft goes through the tree from the root, at each node before its two sides, and stops at the first
fault; the error shows the whole draft.
-/

namespace TransactionLedger.Query

/-- An expression as stated. -/
inductive Draft
  | combination (lhs : Draft) (operator : String) (rhs : Draft)
  | comparison (field operator : String) (value : Json)
  deriving Repr

namespace Draft

/-- The draft as a JSON value. -/
def toJson : Draft → Json
  | combination lhs operator rhs =>
    .object [("lhs", lhs.toJson), ("operator", .string operator), ("rhs", rhs.toJson)]
  | comparison field operator value =>
    .object [("field", .string field), ("operator", .string operator), ("value", value)]

/-- The text of a draft. -/
def render (draft : Draft) : String :=
  draft.toJson.render

/-- Checks a part of a draft; errors show the given expression. -/
def checkWithin (expression : String) : Draft → Except QueryError Expression
  | combination lhs operator rhs =>
    match Combinator.ofName? operator with
    | none => .error (.unsupportedOperator operator expression)
    | some combinator => do
      let lhs ← lhs.checkWithin expression
      let rhs ← rhs.checkWithin expression
      return .combine lhs combinator rhs
  | comparison field operator value =>
    match Operator.ofName? operator with
    | none => .error (.unsupportedOperator operator expression)
    | some operator => (Comparison.check field operator value expression).map .leaf

/-- The expression that a draft states. -/
def check (draft : Draft) : Except QueryError Expression :=
  draft.checkWithin draft.render

end Draft

end TransactionLedger.Query
