import TransactionLedger.Filter.Basic
import TransactionLedger.Sql.Error

/-!
# Limits of statements

A statement selects the records that pass a filter. The database reads its text from left to right
and refuses it at the first place where it needs more than it may: a stack that grows with every
parenthesis, with every right side and with the bounds of `BETWEEN`, or a number of placeholders.
-/

namespace TransactionLedger

open TransactionLedger.Filter TransactionLedger.Sql

namespace Filter

/-- The statement that selects the records passing a filter, ordered by their ids. -/
def statement (filter : Filter) : String :=
  "SELECT " ++ Column.selectList ++ " FROM " ++ tableName ++
    (if filter.text.isEmpty then "" else " WHERE " ++ filter.text) ++
    " ORDER BY " ++ Column.transactionRecordId.name ++ " ASC"

/-- What reading a part of a statement takes. -/
inductive Demand
  | depth (levels : Nat)
  | variable (name : String)
  deriving DecidableEq, Repr

def Operand.placeholders : Operand → List String
  | column _ => []
  | placeholder name => [name]
  | extract source _ => source.placeholders

/-- What reading an operand at a depth takes. -/
def Operand.demands (depth : Nat) (operand : Operand) : List Demand :=
  .depth depth :: operand.placeholders.map .variable

/-- What reading a condition at a depth takes, in the order of the text. -/
def Condition.demands (depth : Nat) : Condition → List Demand
  | compare lhs _ rhs => lhs.demands depth ++ rhs.demands depth
  | between subject low high =>
    subject.demands depth ++ low.demands (depth + 4) ++ high.demands (depth + 4)
  | oneOf subject choices => subject.demands depth ++ choices.flatMap (·.demands depth)
  | both lhs rhs => lhs.demands depth ++ rhs.demands (depth + 2)
  | either lhs rhs => lhs.demands depth ++ rhs.demands (depth + 2)
  | group inner => inner.demands (depth + 1)

/-- The deepest level that can be read. -/
def depthLimit : Nat := 88

/-- The largest number of different placeholders. -/
def variableLimit : Nat := 32766

/-- Nothing in the list goes too deep. -/
def withinDepth (demands : List Demand) : Bool :=
  demands.all fun
    | .depth levels => levels ≤ depthLimit
    | .variable _ => true

/-- Where a placeholder first stands in the statement, in bytes. -/
def placeholderOffset (filter : Filter) (name : String) : Nat :=
  ((filter.statement.splitOn (":" ++ name)).headD "").utf8ByteSize

/-- The statement can be read. -/
def checkLimits (filter : Filter) : Except SqlError Unit :=
  let demands := match filter.condition with
    | some condition => condition.demands 0
    | none => []
  match filter.names[variableLimit]? with
  | none => if withinDepth demands then .ok () else .error .stackOverflow
  | some name =>
    if withinDepth (demands.takeWhile (· ≠ .variable name)) then
      .error (.tooManyVariables filter.statement (filter.placeholderOffset name))
    else .error .stackOverflow

end Filter

end TransactionLedger
