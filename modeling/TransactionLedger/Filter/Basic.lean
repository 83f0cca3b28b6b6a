import TransactionLedger.Filter.BindValue
import TransactionLedger.Filter.Condition
import TransactionLedger.Query.Search
import TransactionLedger.Timestamp.Printer

/-!
# Filters

A filter is the condition that a search asks for, together with the values of its placeholders in
the order in which their names first occur in the text. The condition depends on the form of the
search alone: no text that a caller supplies becomes part of it, except for field paths.
-/

namespace TransactionLedger

open TransactionLedger.Filter

/-- A condition with the values of its placeholders. No condition lets every record pass. -/
structure Filter where
  condition : Option Condition
  values : List (String × BindValue)
  deriving Repr

namespace Filter

/-- The filter that lets every record pass. -/
def everything : Filter :=
  ⟨none, []⟩

/-- The text of a filter; empty when every record passes. -/
def text (filter : Filter) : String :=
  match filter.condition with
  | some condition => condition.text
  | none => ""

/-- The names of the placeholders. -/
def names (filter : Filter) : List String :=
  filter.values.map Prod.fst

/-- The placeholders as they stand in the text. -/
def parameters (filter : Filter) : List String :=
  filter.names.map (":" ++ ·)

/-- The name of the placeholder for a leaf of an expression. -/
def leafName (position : Nat) : String :=
  "dq" ++ String.ofList (Text.decimal position)

/-- The name of the placeholder for an event type. -/
def eventTypeName (position : Nat) : String :=
  "et" ++ String.ofList (Text.decimal position)

/-- The relation of an operator other than `BETWEEN`. -/
def relationOf : Query.Operator → Relation
  | .equal => .equal
  | .greater => .greater
  | .less => .less
  | .like => .like
  | .between => .equal

/-- The condition of a leaf. A pair of bounds is bound as one JSON text and taken apart again. -/
def leafCondition (position : Nat) (comparison : Query.Comparison) : Condition :=
  let subject := Operand.extract (.column .data) comparison.field.steps
  let value := Operand.placeholder (leafName position)
  match comparison.operator with
  | .between =>
    .between subject (.extract value [.element ⟨['0'], rfl⟩]) (.extract value [.element ⟨['1'], rfl⟩])
  | operator => .compare subject (relationOf operator) value

def joined : Query.Combinator → Condition → Condition → Condition
  | .conjunction => .both
  | .disjunction => .either

/-- A side that is itself a combination is written in parentheses. -/
def sideCondition (side : Query.Expression) (condition : Condition) : Condition :=
  match side with
  | .leaf _ => condition
  | .combine .. => .group condition

/-- The condition of an expression whose leaves are numbered from `first` on. -/
def expressionCondition (first : Nat) : Query.Expression → Condition
  | .leaf comparison => leafCondition first comparison
  | .combine lhs combinator rhs =>
    joined combinator
      (sideCondition lhs (expressionCondition first lhs))
      (sideCondition rhs (expressionCondition (first + lhs.leafCount) rhs))

/-- Values under the names that a numbering gives, counted from `first` on. -/
def numbered (name : Nat → String) (first : Nat) : List BindValue → List (String × BindValue)
  | [] => []
  | value :: rest => (name first, value) :: numbered name (first + 1) rest

def ofExpression (expression : Query.Expression) : Filter :=
  ⟨some (expressionCondition 0 expression),
    numbered leafName 0 (expression.leaves.map fun comparison => .ofJson comparison.value)⟩

/-- The filter of an expression that may be absent. -/
def ofExpression? : Option Query.Expression → Filter
  | some expression => ofExpression expression
  | none => everything

/-- The pattern that finds a fragment anywhere. -/
def fragmentPattern (fragment : String) : String :=
  "%" ++ fragment ++ "%"

/-- A bound of a time column, with its value. -/
def timeBound (column : Column) (relation : Relation) (name : String)
    (bound : Option Timestamp.Instant) : List (Condition × List (String × BindValue)) :=
  match bound with
  | some instant =>
    [(.compare (.column column) relation (.placeholder name), [(name, .text instant.stored)])]
  | none => []

/-- The bounds of a time column. -/
def timeCriteria (column : Column) (earliestName latestName : String)
    (range : Option Query.TimeRange) : List (Condition × List (String × BindValue)) :=
  match range with
  | some range =>
    timeBound column .atLeast earliestName range.earliest ++
      timeBound column .atMost latestName range.latest
  | none => []

/-- The id must contain the fragment; an empty fragment asks for nothing. -/
def idCriterion : Option String → List (Condition × List (String × BindValue))
  | some fragment =>
    if fragment.isEmpty then []
    else
      [(.compare (.column .uniqueId) .like (.placeholder "uid"),
        [("uid", .text (fragmentPattern fragment))])]
  | none => []

/-- The event type must be listed; an empty list asks for nothing. -/
def eventTypeCriterion : Option (List String) → List (Condition × List (String × BindValue))
  | some (first :: rest) =>
    let values := numbered eventTypeName 0 ((first :: rest).map .text)
    [(.oneOf (.column .eventType) (values.map fun value => .placeholder value.1), values)]
  | _ => []

/-- The expression must hold. -/
def expressionCriterion : Option Query.Expression → List (Condition × List (String × BindValue))
  | some expression =>
    [(.group (expressionCondition 0 expression), (ofExpression expression).values)]
  | none => []

/-- What a search asks for, one criterion after the other, each with its values. -/
def criteria (search : Query.Search) : List (Condition × List (String × BindValue)) :=
  idCriterion search.idFragment ++ eventTypeCriterion search.eventTypes ++
    timeCriteria .eventTimestamp "etsf" "etst" search.eventTime ++
    timeCriteria .insertTimestamp "itsf" "itst" search.insertTime ++
    expressionCriterion search.expression

def ofSearch (search : Query.Search) : Filter :=
  ⟨Condition.all? ((criteria search).map Prod.fst), (criteria search).flatMap Prod.snd⟩

/-- The filter that finds the records with exactly this id. -/
def ofId (id : String) : Filter :=
  ⟨some (.compare (.column .uniqueId) .equal (.placeholder "id")), [("id", .text id)]⟩

end Filter

end TransactionLedger
