import TransactionLedger.Proofs.Filter.Binding
import TransactionLedger.Proofs.Sql.Reading
import TransactionLedger.Proofs.Sql.Scope
import TransactionLedger.Proofs.Sql.Truth

/-!
# Expressions as conditions

The text of an expression's filter is read in one way, as the expression itself: the same
combinators over the same sides, with the leaves numbered from left to right. So a row is true under
the filter exactly when the expression holds for its payload, where an unknown leaf counts as false.
-/

namespace TransactionLedger

open TransactionLedger.Filter Query Sql

namespace Query

/-- The part of a value that a path leads to. -/
def extracted (path : List Segment) (value : Value) : Except SqlError Value :=
  match Payload.part? path value with
  | some part => .ok part
  | none => .error .malformedPayload

theorem isNumeral_zero : isNumeral ['0'] :=
  rfl

theorem isNumeral_one : isNumeral ['1'] :=
  rfl

/-- Whether a comparison holds for a payload. -/
def Comparison.truth (payload : Value) (comparison : Comparison) : Except SqlError Truth := do
  let part ← extracted comparison.field.steps payload
  let value := Value.ofBind (.ofJson comparison.value)
  match comparison.operator with
  | .equal => Relation.equal.truth part value
  | .greater => Relation.greater.truth part value
  | .less => Relation.less.truth part value
  | .like => Relation.like.truth part value
  | .between => do
    let aboveLow ←
      Relation.atLeast.truth part (← extracted [.element ⟨['0'], isNumeral_zero⟩] value)
    return aboveLow.both
      (← Relation.atMost.truth part (← extracted [.element ⟨['1'], isNumeral_one⟩] value))

namespace Expression

/-- Whether an expression holds for a payload; a leaf that is unknown does not hold. -/
def satisfied (payload : Value) : Expression → Except SqlError Bool
  | leaf comparison => do return (← comparison.truth payload).isTrue
  | combine lhs .conjunction rhs => do
    return (← lhs.satisfied payload) && (← rhs.satisfied payload)
  | combine lhs .disjunction rhs => do
    return (← lhs.satisfied payload) || (← rhs.satisfied payload)

/-- The expression as a condition without parentheses, its leaves numbered from `first` on. -/
def reading (first : Nat) : Expression → Condition
  | leaf comparison => leafCondition first comparison
  | combine lhs .conjunction rhs =>
    .both (lhs.reading first) (rhs.reading (first + lhs.leafCount))
  | combine lhs .disjunction rhs =>
    .either (lhs.reading first) (rhs.reading (first + lhs.leafCount))

end Expression

end Query

namespace Filter

/-- The tests of a condition from left to right. -/
def Condition.tests : Condition → List Condition
  | both lhs rhs => lhs.tests ++ rhs.tests
  | either lhs rhs => lhs.tests ++ rhs.tests
  | group inner => inner.tests
  | test => [test]

/-! ## The reading of the text -/

theorem wellGrouped_leafCondition (position : Nat) (comparison : Comparison) (level : Level) :
    (leafCondition position comparison).WellGrouped level := by
  cases operator : comparison.operator <;>
    simp [leafCondition, operator, Condition.WellGrouped]

theorem wellGrouped_sideCondition {first : Nat} {side : Expression}
    (grouped : (expressionCondition first side).WellGrouped .disjunction) (level : Level) :
    (sideCondition side (expressionCondition first side)).WellGrouped level := by
  cases side with
  | leaf comparison => exact wellGrouped_leafCondition first comparison level
  | combine lhs combinator rhs => exact grouped

theorem wellGrouped_expressionCondition (first : Nat) (expression : Expression) :
    (expressionCondition first expression).WellGrouped .disjunction := by
  induction expression generalizing first with
  | leaf comparison => exact wellGrouped_leafCondition first comparison .disjunction
  | combine lhs combinator rhs ihLeft ihRight =>
      have left := wellGrouped_sideCondition (ihLeft first)
      have right := wellGrouped_sideCondition (ihRight (first + lhs.leafCount))
      cases combinator with
      | conjunction => exact ⟨left .conjunction, right .predicate⟩
      | disjunction => exact ⟨left .disjunction, right .conjunction⟩

theorem ungrouped_leafCondition (position : Nat) (comparison : Comparison) :
    (leafCondition position comparison).ungrouped = leafCondition position comparison := by
  cases operator : comparison.operator <;> simp [leafCondition, operator, Condition.ungrouped]

@[simp]
theorem ungrouped_sideCondition (side : Expression) (condition : Condition) :
    (sideCondition side condition).ungrouped = condition.ungrouped := by
  cases side <;> rfl

theorem ungrouped_expressionCondition (first : Nat) (expression : Expression) :
    (expressionCondition first expression).ungrouped = expression.reading first := by
  induction expression generalizing first with
  | leaf comparison => exact ungrouped_leafCondition first comparison
  | combine lhs combinator rhs ihLeft ihRight =>
      cases combinator <;>
        simp [expressionCondition, joined, Condition.ungrouped, Expression.reading, ihLeft, ihRight]

/-- An expression in the place of a condition is read as the expression. -/
theorem reads_expressionCondition_iff {expression : Expression} {reading : Condition} :
    Reads (expressionCondition 0 expression).text reading ↔ reading = expression.reading 0 := by
  rw [reads_text_iff (wellGrouped_expressionCondition 0 expression)
    isPlaceholderName_of_mem_expressionCondition, ungrouped_expressionCondition]

theorem tests_leafCondition (position : Nat) (comparison : Comparison) :
    (leafCondition position comparison).tests = [leafCondition position comparison] := by
  cases operator : comparison.operator <;> simp [leafCondition, operator, Condition.tests]

theorem tests_reading (first : Nat) (expression : Expression) :
    (expression.reading first).tests =
      expression.leaves.mapIdx fun position leaf => leafCondition (first + position) leaf := by
  induction expression generalizing first with
  | leaf comparison => exact tests_leafCondition first comparison
  | combine lhs combinator rhs ihLeft ihRight =>
      cases combinator <;>
        simp [Expression.reading, Condition.tests, Expression.leaves, ihLeft, ihRight,
          List.mapIdx_append, Nat.add_assoc, Nat.add_comm lhs.leafCount]

/-- The text of the test that a leaf is: the part of the data at the rooted path of the field,
compared with the value of the placeholder or with the two that are taken out of it. -/
def leafText (position : Nat) (comparison : Comparison) : String :=
  let part := "json_extract(data, '" ++ comparison.field.rooted ++ "')"
  let value := ":" ++ leafName position
  let bound digit := "json_extract(" ++ value ++ ", '$[" ++ digit ++ "]')"
  match comparison.operator with
  | .between => part ++ " BETWEEN " ++ bound "0" ++ " AND " ++ bound "1"
  | operator => part ++ " " ++ operator.symbol ++ " " ++ value

theorem rooted_eq_steps (path : FieldPath) :
    path.rooted = "$" ++ String.ofList (path.steps.flatMap Segment.text) :=
  String.ofList_cons

theorem text_extract_data (path : FieldPath) :
    (Operand.extract (.column .data) path.steps).text =
      "json_extract(data, '" ++ path.rooted ++ "')" := by
  have opening :
      "json_extract(data, '" ++ "$" = "json_extract(" ++ Column.data.name ++ ", '$" := by
    decide
  rw [rooted_eq_steps, ← String.append_assoc, opening]
  rfl

theorem text_extract_element (name : String) (digits : Numeral) :
    (Operand.extract (.placeholder name) [.element digits]).text =
      "json_extract(" ++ (":" ++ name) ++ ", '$[" ++ String.ofList digits.val ++ "]')" := by
  have opening : ", '$[" = ", '$" ++ "[" := by decide
  have closing : "]')" = "]" ++ "')" := by decide
  have written : String.ofList ([Segment.element digits].flatMap Segment.text) =
      "[" ++ String.ofList digits.val ++ "]" := by
    simp [Segment.text, ← String.toList_inj]
  change "json_extract(" ++ (":" ++ name) ++ ", '$" ++
    String.ofList ([Segment.element digits].flatMap Segment.text) ++ "')" = _
  rw [written, opening, closing]
  simp only [String.append_assoc]

theorem text_leafCondition (position : Nat) (comparison : Comparison) :
    (leafCondition position comparison).text = leafText position comparison := by
  cases operator : comparison.operator with
  | between =>
      simp only [leafCondition, leafText, operator, Condition.text, text_extract_data,
        text_extract_element]
  | _ =>
      simp only [leafCondition, leafText, operator, Condition.text, text_extract_data]
      rfl

/-! ## Truth under the bound values -/

theorem holds_ungrouped (scope : Scope) (condition : Condition) :
    condition.ungrouped.holds scope = condition.holds scope := by
  induction condition with
  | both lhs rhs ihLeft ihRight => simp only [Condition.ungrouped, Condition.holds, ihLeft, ihRight]
  | either lhs rhs ihLeft ihRight =>
      simp only [Condition.ungrouped, Condition.holds, ihLeft, ihRight]
  | group inner ih => exact ih
  | _ => rfl

theorem evaluate_extract (scope : Scope) (source : Operand) (path : List Segment) :
    (Operand.extract source path).evaluate scope = source.evaluate scope >>= extracted path := by
  cases evaluates : source.evaluate scope with
  | error error => simp [Operand.evaluate, evaluates]
  | ok value =>
      simp only [Operand.evaluate, evaluates, ok_bind, extracted]
      cases Payload.part? path value <;> rfl

theorem truth_leafCondition {scope : Scope} {position : Nat} {comparison : Comparison}
    (bound : scope.placeholder (leafName position) = .ofBind (.ofJson comparison.value)) :
    (leafCondition position comparison).truth scope =
      comparison.truth (scope.column .data) := by
  have value : (Operand.placeholder (leafName position)).evaluate scope =
      .ok (.ofBind (.ofJson comparison.value)) := by
    rw [Operand.evaluate, bound]
  have part : (Operand.extract (.column .data) comparison.field.steps).evaluate scope =
      extracted comparison.field.steps (scope.column .data) := by
    rw [evaluate_extract]
    rfl
  cases operator : comparison.operator <;>
    simp only [leafCondition, operator, relationOf, Condition.truth, Comparison.truth,
      evaluate_extract, part, value, ok_bind]

theorem map_isTrue_both (left right : Except SqlError Truth) :
    (do return (← left).both (← right) : Except SqlError Truth).map Truth.isTrue =
      (do return (← left.map Truth.isTrue) && (← right.map Truth.isTrue)) := by
  cases left <;> cases right <;> simp [Except.map]

theorem map_isTrue_either (left right : Except SqlError Truth) :
    (do return (← left).either (← right) : Except SqlError Truth).map Truth.isTrue =
      (do return (← left.map Truth.isTrue) || (← right.map Truth.isTrue)) := by
  cases left <;> cases right <;> simp [Except.map]

theorem truth_reading {scope : Scope} {first : Nat} (expression : Expression)
    (bound : ∀ position comparison, expression.leaves[position]? = some comparison →
      scope.placeholder (leafName (first + position)) = .ofBind (.ofJson comparison.value)) :
    ((expression.reading first).truth scope).map Truth.isTrue =
      expression.satisfied (scope.column .data) := by
  induction expression generalizing first with
  | leaf comparison =>
      have firstBound := bound 0 comparison rfl
      rw [Nat.add_zero] at firstBound
      rw [Expression.reading, truth_leafCondition firstBound, Expression.satisfied]
      cases comparison.truth (scope.column .data) <;> rfl
  | combine lhs combinator rhs ihLeft ihRight =>
      have left := ihLeft fun position comparison inside => by
        have short := (List.getElem?_eq_some_iff.mp inside).1
        apply bound
        rwa [Expression.leaves, List.getElem?_append_left short]
      have right : ((rhs.reading (first + lhs.leafCount)).truth scope).map Truth.isTrue =
          rhs.satisfied (scope.column .data) := by
        apply ihRight
        intro position comparison inside
        rw [Nat.add_assoc]
        apply bound
        rw [Expression.leaves, List.getElem?_append_right (by simp)]
        simpa using inside
      cases combinator with
      | conjunction =>
          simp only [Expression.reading, Condition.truth, Expression.satisfied, ← left, ← right]
          exact map_isTrue_both _ _
      | disjunction =>
          simp only [Expression.reading, Condition.truth, Expression.satisfied, ← left, ← right]
          exact map_isTrue_either _ _

/-! ## The filter of an expression -/

theorem nodup_names_ofExpression (expression : Expression) :
    (ofExpression expression).names.Nodup := by
  rw [Filter.names, ofExpression, names_numbered, ← List.range_eq_range']
  exact List.nodup_range.map leafName_injective

theorem placeholder_ofExpression {expression : Expression} {position : Nat}
    {comparison : Comparison} (row : Column → Value)
    (inside : expression.leaves[position]? = some comparison) :
    (Scope.mk row (ofExpression expression).bindings).placeholder (leafName (0 + position)) =
      .ofBind (.ofJson comparison.value) := by
  have found := lookup_numbered (expression.leaves.map fun leaf => .ofJson leaf.value)
    leafName_injective 0 position
  rw [List.getElem?_map, inside] at found
  rw [placeholder_bindings (nodup_names_ofExpression expression), boundValue]
  simp only [ofExpression, found]
  rfl

/-- The text of an expression's filter has one reading, and it is the expression: its combinators
over its sides, with its leaves in order as the tests, each written with the path of its field, its
operator and its placeholder. Under the bound values and three-valued logic a row is true exactly
when the expression holds for its payload, and the database agrees wherever no test fails. -/
theorem ofExpression_reading (expression : Expression) :
    (∀ reading, Reads (ofExpression expression).text reading ↔ reading = expression.reading 0) ∧
      (expression.reading 0).tests = expression.leaves.mapIdx leafCondition ∧
      (∀ position comparison,
        (leafCondition position comparison).text = leafText position comparison) ∧
      (∀ row, ((expression.reading 0).truth ⟨row, (ofExpression expression).bindings⟩).map
        Truth.isTrue = expression.satisfied (row .data)) ∧
      (∀ row, (ofExpression expression).accepts row = expression.satisfied (row .data) ∨
        ∃ error, expression.satisfied (row .data) = .error error) := by
  have truths : ∀ row, ((expression.reading 0).truth
      ⟨row, (ofExpression expression).bindings⟩).map Truth.isTrue =
      expression.satisfied (row .data) :=
    fun row => truth_reading expression fun _ _ inside => placeholder_ofExpression row inside
  refine ⟨fun reading => reads_expressionCondition_iff, ?_, text_leafCondition, truths, ?_⟩
  · simpa using tests_reading 0 expression
  · intro row
    rw [← truths row]
    cases known : (expression.reading 0).truth ⟨row, (ofExpression expression).bindings⟩ with
    | error error =>
        right
        exact ⟨error, rfl⟩
    | ok truth =>
        left
        have holds := Condition.holds_of_truth known
        rw [← ungrouped_expressionCondition, holds_ungrouped] at holds
        exact holds

end Filter

end TransactionLedger
