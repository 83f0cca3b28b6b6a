import TransactionLedger.Proofs.Filter.Leaf
import TransactionLedger.Proofs.Sql.Limits
import TransactionLedger.Proofs.Store.Judging
import TransactionLedger.Proofs.Store.Leaf

/-!
# Ranges

A range binds its two bounds as one text that the database takes apart again, where single
comparisons bind each value on its own. Still a range accepts what four comparisons accept: the part
is greater than the low bound or equal to it, and less than the high bound or equal to it. This
holds for whatever stands in the payload, and the bounds need not be of one kind.
-/

namespace TransactionLedger

open TransactionLedger.Filter Query Sql

namespace Query

/-- The field lies between two bounds. -/
def Comparison.inRange (field : FieldPath) (low high : Json) : Comparison :=
  ⟨field, .between, .array [low, high]⟩

/-- The field is greater than the low bound or equal to it, and less than the high bound or equal to
it. -/
def Expression.within (field : FieldPath) (low high : Json) : Expression :=
  .combine
    (.combine (.leaf ⟨field, .greater, low⟩) .disjunction (.leaf ⟨field, .equal, low⟩))
    .conjunction
    (.combine (.leaf ⟨field, .less, high⟩) .disjunction (.leaf ⟨field, .equal, high⟩))

end Query

/-- The value is not less than the low bound and not greater than the high one; null is neither. -/
def Sql.Value.isWithin (value low high : Value) : Bool :=
  Relation.orderIn [.gt, .eq] value low && Relation.orderIn [.lt, .eq] value high

namespace Filter

/-! ## Expressions over one field -/

theorem Relation.orderIn_pair (first second : Ordering) (lhs rhs : Value) :
    orderIn [first, second] lhs rhs = (orderIn [first] lhs rhs || orderIn [second] lhs rhs) := by
  simp only [orderIn]
  cases lhs.order? rhs with
  | none => rfl
  | some order => simp

end Filter

namespace Query

section Satisfied

variable {field : FieldPath} {low high : Json} {payload part : Value}

/-- A range holds if the part that its field leads to is within the bounds. -/
theorem satisfied_inRange (lowSimple : low.IsSimple) (highSimple : high.IsSimple)
    (extracts : extracted field.steps payload = .ok part) :
    (Expression.leaf (.inRange field low high)).satisfied payload =
      .ok (part.isWithin (.ofPart low) (.ofPart high)) := by
  rcases extracted_pair lowSimple highSimple with ⟨lowFound, highFound⟩
  simp only [Expression.satisfied, Comparison.inRange, Comparison.truth, extracts, lowFound,
    highFound, Relation.truth, ok_bind, pure_eq_ok, Truth.isTrue_both, ← Relation.orderIn_eq]
  rfl

/-- The four comparisons hold together under the same condition. -/
theorem satisfied_within (lowSimple : low.IsSimple) (highSimple : high.IsSimple)
    (extracts : extracted field.steps payload = .ok part) :
    (Expression.within field low high).satisfied payload =
      .ok (part.isWithin (.ofPart low) (.ofPart high)) := by
  have lowBound := Json.ofBind_ofJson lowSimple
  have highBound := Json.ofBind_ofJson highSimple
  simp only [Expression.satisfied, Expression.within, Comparison.truth, extracts, lowBound,
    highBound, Relation.truth, ok_bind, pure_eq_ok, ← Relation.orderIn_eq, Value.isWithin]
  rw [Relation.orderIn_pair .gt, Relation.orderIn_pair .lt]

end Satisfied

end Query

namespace Filter

/-! ## Payloads that cannot be read -/

variable {scope : Scope} {error : SqlError}

theorem holds_leafCondition_of_error {position : Nat} {comparison : Comparison}
    (failed : extracted comparison.field.steps (scope.column .data) = .error error) :
    (leafCondition position comparison).holds scope = .error error := by
  have part : (Operand.extract (.column .data) comparison.field.steps).evaluate scope =
      .error error := by
    rw [evaluate_extract]
    exact failed
  cases operator : comparison.operator <;>
    simp only [leafCondition, operator, Condition.holds, part, error_bind]

theorem holds_sideCondition (side : Expression) (condition : Condition) :
    (sideCondition side condition).holds scope = condition.holds scope := by
  cases side <;> rfl

/-- Evaluation starts with the first leaf, and fails if the part that it asks for cannot be taken
out of the payload. -/
theorem holds_expressionCondition_of_error {expression : Expression} {first : Nat}
    {comparison : Comparison} (starts : expression.leaves.head? = some comparison)
    (failed : extracted comparison.field.steps (scope.column .data) = .error error) :
    (expressionCondition first expression).holds scope = .error error := by
  induction expression generalizing first with
  | leaf only =>
      rcases Option.some.inj starts with rfl
      exact holds_leafCondition_of_error failed
  | combine lhs combinator rhs ihLeft =>
      have leftStarts : lhs.leaves.head? = some comparison := by
        have nonempty : lhs.leaves ≠ [] := by
          apply List.ne_nil_of_length_pos
          rw [Expression.length_leaves]
          exact lhs.leafCount_pos
        rwa [Expression.leaves, List.head?_append_of_ne_nil _ nonempty] at starts
      have leftFails : (sideCondition lhs (expressionCondition first lhs)).holds scope =
          .error error := by
        rw [holds_sideCondition]
        exact ihLeft leftStarts
      cases combinator with
      | conjunction => simp only [expressionCondition, joined, Condition.holds, leftFails, error_bind]
      | disjunction => simp only [expressionCondition, joined, Condition.holds, leftFails, error_bind]

/-- A range and the four comparisons judge every row alike. -/
theorem accepts_inRange {field : FieldPath} {low high : Json} (lowSimple : low.IsSimple)
    (highSimple : high.IsSimple) (row : Column → Value) :
    (ofExpression (.leaf (.inRange field low high))).accepts row =
      (ofExpression (.within field low high)).accepts row := by
  cases extracts : extracted field.steps (row .data) with
  | ok part =>
      have alone := accepts_ofExpression (satisfied_inRange lowSimple highSimple extracts)
      have together := accepts_ofExpression (satisfied_within lowSimple highSimple extracts)
      rw [alone, together]
  | error error =>
      have alone : (ofExpression (.leaf (.inRange field low high))).accepts row = .error error :=
        holds_expressionCondition_of_error rfl extracts
      have together : (ofExpression (.within field low high)).accepts row = .error error :=
        holds_expressionCondition_of_error rfl extracts
      rw [alone, together]

end Filter

namespace Store

theorem checkLimits_inRange (field : FieldPath) (low high : Json) :
    (ofSearch { expression := some (.leaf (.inRange field low high)) }).checkLimits = .ok () := by
  apply checkLimits_ofSearch_iff.mpr
  apply fits_of_expression
  · exact (by decide : 1 ≤ variableLimit)
  · exact (by decide : 5 ≤ depthLimit)

theorem checkLimits_within (field : FieldPath) (low high : Json) :
    (ofSearch { expression := some (.within field low high) }).checkLimits = .ok () := by
  apply checkLimits_ofSearch_iff.mpr
  apply fits_of_expression
  · exact (by decide : 4 ≤ variableLimit)
  · exact (by decide : 6 ≤ depthLimit)

/-- A range and the four comparisons judge every row alike, whatever its data are; a row with a
printed payload is judged. So a search for the one and a search for the other have the same outcome
in every database. -/
theorem select_inRange {low high : Json} (lowSimple : low.IsSimple) (highSimple : high.IsSimple)
    (field : FieldPath) :
    (∀ row : Column → Value, (ofExpression (.leaf (.inRange field low high))).accepts row =
        (ofExpression (.within field low high)).accepts row) ∧
      (∀ (row : Column → Value) (payload : Json), row .data = .text payload.render →
        payload.WellFormed Payload.depthLimit →
          ∃ verdict, (ofExpression (.leaf (.inRange field low high))).accepts row = .ok verdict) ∧
      ∀ database : Database,
        database.select (ofSearch { expression := some (.leaf (.inRange field low high)) }) =
          database.select (ofSearch { expression := some (.within field low high) }) := by
  refine ⟨accepts_inRange lowSimple highSimple, ?_, ?_⟩
  · intro row payload stored wellFormed
    have found := extracted_render wellFormed le_rfl field.steps
    rw [← stored] at found
    exact ⟨_, accepts_ofExpression (satisfied_inRange lowSimple highSimple found)⟩
  · apply Database.select_congr
    · rw [checkLimits_inRange, checkLimits_within]
    · exact keyTests_ofExpression _
    · exact keyTests_ofExpression _
    · intro row
      rw [accepts_ofSearch_expression, accepts_ofSearch_expression]
      exact accepts_inRange lowSimple highSimple row.value

/-- The amount lies between ten and a text. -/
def amountRange : Comparison :=
  .inRange amountAboveTen.field (.number (.integer 10)) (.string "5")

def amountWithin : Expression :=
  .within amountAboveTen.field (.number (.integer 10)) (.string "5")

/-- Both a number and a text are found. -/
theorem select_amountRange :
    amountDatabase.select (ofSearch { expression := some (.leaf amountRange) }) =
        .ok [amountEntry 2, amountEntry 3] ∧
      amountDatabase.select (ofSearch { expression := some amountWithin }) =
        .ok [amountEntry 2, amountEntry 3] := by
  have lowSimple : (Json.number (.integer 10)).IsSimple := by decide
  have highSimple : (Json.string "5").IsSimple := trivial
  have same : amountDatabase.select (ofSearch { expression := some (.leaf amountRange) }) =
      amountDatabase.select (ofSearch { expression := some amountWithin }) :=
    (select_inRange lowSimple highSimple amountAboveTen.field).2.2 amountDatabase
  have found : amountDatabase.select (ofSearch { expression := some amountWithin }) =
      .ok [amountEntry 2, amountEntry 3] := by cbv
  exact ⟨same.trans found, found⟩

end Store

end TransactionLedger
