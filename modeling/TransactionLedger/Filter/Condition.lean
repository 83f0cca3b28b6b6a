import TransactionLedger.Filter.Column
import TransactionLedger.Query.FieldPath

/-!
# Conditions

A condition is a predicate over the columns of a row, in which values are named by placeholders. Its
text binds comparisons tighter than `AND`, and `AND` tighter than `OR`; a group is written in
parentheses.
-/

namespace TransactionLedger.Filter

/-- Something that has a value in a row. -/
inductive Operand
  | column (which : Column)
  | placeholder (name : String)
  /-- The part of a JSON text that a path leads to. -/
  | extract (source : Operand) (path : List Query.Segment)
  deriving DecidableEq, Repr

/-- How two operands are compared. -/
inductive Relation
  | equal
  | greater
  | less
  | atLeast
  | atMost
  | like
  deriving DecidableEq, Repr

/-- A predicate over a row. -/
inductive Condition
  | compare (lhs : Operand) (relation : Relation) (rhs : Operand)
  | between (subject low high : Operand)
  | oneOf (subject : Operand) (choices : List Operand)
  | both (lhs rhs : Condition)
  | either (lhs rhs : Condition)
  | group (inner : Condition)
  deriving DecidableEq, Repr

namespace Relation

def symbol : Relation → String
  | equal => "="
  | greater => ">"
  | less => "<"
  | atLeast => ">="
  | atMost => "<="
  | like => "LIKE"

end Relation

namespace Operand

def text : Operand → String
  | column which => which.name
  | placeholder name => ":" ++ name
  | extract source path =>
    "json_extract(" ++ source.text ++ ", '$" ++
      String.ofList (path.flatMap Query.Segment.text) ++ "')"

end Operand

namespace Condition

def text : Condition → String
  | compare lhs relation rhs => lhs.text ++ " " ++ relation.symbol ++ " " ++ rhs.text
  | between subject low high =>
    subject.text ++ " BETWEEN " ++ low.text ++ " AND " ++ high.text
  | oneOf subject choices =>
    subject.text ++ " IN (" ++ ", ".intercalate (choices.map Operand.text) ++ ")"
  | both lhs rhs => lhs.text ++ " AND " ++ rhs.text
  | either lhs rhs => lhs.text ++ " OR " ++ rhs.text
  | group inner => "(" ++ inner.text ++ ")"

/-- Every condition of a list holds; the empty list asks for nothing. -/
def all? : List Condition → Option Condition
  | [] => none
  | first :: rest => some (rest.foldl both first)

end Condition

end TransactionLedger.Filter
