import TransactionLedger.Query.Operator

/-!
# Refused expressions

Why an expression is refused. Each error shows the expression that it belongs to.
-/

namespace TransactionLedger.Query

/-- An expression that cannot be searched for. -/
inductive QueryError
  | unsupportedOperator (operator expression : String)
  | invalidField (field expression : String)
  | invalidValue (operator : String) (reason expression : String)
  deriving DecidableEq, Repr

namespace QueryError

def message : QueryError → String
  | unsupportedOperator operator expression =>
    "Unsupported operator '" ++ operator ++ "' in expression " ++ expression
  | invalidField field expression =>
    "Invalid field '" ++ field ++ "' in expression " ++ expression
  | invalidValue operator reason expression =>
    "Invalid value for '" ++ operator ++ "': " ++ reason ++ " in expression " ++ expression

/-- The same error, shown with another expression. -/
def withExpression (error : QueryError) (expression : String) : QueryError :=
  match error with
  | unsupportedOperator operator _ => unsupportedOperator operator expression
  | invalidField field _ => invalidField field expression
  | invalidValue operator reason _ => invalidValue operator reason expression

end QueryError

end TransactionLedger.Query
