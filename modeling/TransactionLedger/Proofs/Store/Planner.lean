import TransactionLedger.Proofs.Filter.Criteria
import TransactionLedger.Store.Planner

/-!
# What an index leaves out

A row that passes meets the tests of every column, so whatever index is used, it is looked at. The
tests that an index answers cannot fail, and a criterion of a search either is such a test or has
none in it.
-/

namespace TransactionLedger

open TransactionLedger.Filter Query Sql

namespace Filter

theorem passes_iff {filter : Filter} {row : Column → Value} :
    filter.passes row = true ↔ filter.accepts row = .ok true := by
  unfold passes
  split
  · rename_i holds judged
    simp [judged]
  · rename_i error failed
    simp [failed]

/-! ## Tests of a column -/

namespace Condition

theorem holds_conjuncts {scope : Scope} {condition : Condition}
    (held : condition.holds scope = .ok true) : ∀ part ∈ condition.conjuncts,
      part.holds scope = .ok true := by
  induction condition with
  | both lhs rhs ihLeft ihRight =>
      rcases bind_eq_ok_iff.mp held with ⟨left, leftHeld, behind⟩
      cases left with
      | false => cases behind
      | true => exact List.forall_mem_append.mpr ⟨ihLeft leftHeld, ihRight behind⟩
  | group inner ih => exact ih held
  | _ =>
      intro part inside
      rwa [List.mem_singleton.mp inside]

end Condition

theorem Operand.exists_evaluate_of_isPlaceholder {operand : Operand}
    (bound : operand.isPlaceholder = true) (scope : Scope) :
    ∃ value, operand.evaluate scope = .ok value := by
  cases operand with
  | placeholder name => exact ⟨_, rfl⟩
  | _ => contradiction

theorem exists_isOneOf {choices : List Operand} (bound : choices.all Operand.isPlaceholder = true)
    (scope : Scope) (value : Value) : ∃ held, isOneOf scope value choices = .ok held := by
  induction choices with
  | nil => exact ⟨false, rfl⟩
  | cons choice rest ih =>
      rw [List.all_cons, Bool.and_eq_true] at bound
      rcases choice.exists_evaluate_of_isPlaceholder bound.1 scope with ⟨other, evaluated⟩
      rcases ih bound.2 with ⟨held, among⟩
      simp only [isOneOf, evaluated, Relation.holds, ok_bind]
      cases Relation.orderIn [.eq] value other with
      | true => exact ⟨true, rfl⟩
      | false => exact ⟨held, among⟩

/-- A test that an index answers does not fail. -/
theorem Condition.exists_holds_of_isKeyTest {column : Column} {test : Condition}
    (answers : test.isKeyTest column = true) (scope : Scope) :
    ∃ held, test.holds scope = .ok held := by
  unfold isKeyTest at answers
  split at answers
  · rename_i which relation rhs
    simp only [Bool.and_eq_true, bne_iff_ne] at answers
    rcases rhs.exists_evaluate_of_isPlaceholder answers.2 scope with ⟨value, evaluated⟩
    simp only [holds, Operand.evaluate, evaluated, ok_bind]
    cases relation with
    | like => exact absurd rfl answers.1.2
    | _ => exact ⟨_, rfl⟩
  · rename_i which choices
    exact exists_isOneOf (Bool.and_eq_true_iff.mp answers).2 scope (scope.column which)
  · contradiction

theorem meetsKey_of_passes {filter : Filter} {row : Column → Value}
    (passed : filter.passes row = true) (column : Column) : filter.meetsKey column row = true := by
  rcases filter with ⟨condition, values⟩
  cases condition with
  | none => rfl
  | some condition =>
      rw [meetsKey, List.all_eq_true]
      intro test inside
      have held :=
        Condition.holds_conjuncts (passes_iff.mp passed) test (List.mem_of_mem_filter inside)
      exact passes_iff.mpr held

/-! ## Tests of a search -/

/-- No index helps with an expression: all that it compares is taken out of the data. -/
theorem keyTests_expressionCondition (column : Column) (expression : Expression) (first : Nat) :
    (expressionCondition first expression).keyTests column = [] := by
  induction expression generalizing first with
  | leaf comparison =>
      rcases comparison with ⟨field, operator, value⟩
      cases operator <;> rfl
  | combine lhs combinator rhs ihLeft ihRight =>
      cases combinator with
      | disjunction => rfl
      | conjunction =>
          have ungrouped (side : Expression) (condition : Condition) :
              (sideCondition side condition).conjuncts = condition.conjuncts := by
            cases side <;> rfl
          simp only [expressionCondition, joined, Condition.keyTests, Condition.conjuncts,
            ungrouped, List.filter_append]
          exact List.append_eq_nil_iff.mpr ⟨ihLeft first, ihRight _⟩

variable {search : Search} {own : Condition × List (String × BindValue)} {column : Column}

/-- A criterion is itself a test of the column, or it has none in it. -/
theorem keyTests_of_mem_criteria (inside : own ∈ criteria search) (column : Column) :
    own.1.keyTests column = if own.1.isKeyTest column then [own.1] else [] := by
  rw [criteria_eq_flatMap, List.mem_flatMap] at inside
  rcases inside with ⟨criterion, -, inside⟩
  by_cases plain : criterion = .expression
  · subst plain
    simp only [ownCriteria, expressionCriterion] at inside
    split at inside
    · rw [List.mem_singleton.mp inside]
      exact keyTests_expressionCondition column _ 0
    · contradiction
  · rcases plain_of_mem_ownCriteria plain inside with
      ⟨lhs, relation, rhs, compares⟩ | ⟨subject, choices, -, lists⟩
    · rw [compares]
      exact List.filter_cons
    · rw [lists]
      exact List.filter_cons

theorem conjuncts_foldl_both (first : Condition) (rest : List Condition) :
    (rest.foldl Condition.both first).conjuncts =
      first.conjuncts ++ rest.flatMap Condition.conjuncts := by
  induction rest generalizing first with
  | nil => simp
  | cons second rest ih => simp [ih, Condition.conjuncts]

/-- The tests of a search are those of its criteria that are tests. -/
theorem mem_keyTests_ofSearch_iff {test : Condition} :
    test ∈ (ofSearch search).keyTests column ↔
      ∃ own ∈ criteria search, own.1 = test ∧ test.isKeyTest column = true := by
  have parts : (ofSearch search).keyTests column =
      (criteria search).flatMap fun own => own.1.keyTests column := by
    cases found : criteria search with
    | nil => simp [keyTests, ofSearch, found, Condition.all?]
    | cons first rest =>
        simp [keyTests, condition_ofSearch found, Condition.keyTests, conjuncts_foldl_both,
          List.filter_append, List.filter_flatMap, List.flatMap_map]
  rw [parts, List.mem_flatMap]
  refine exists_congr fun own => and_congr_right fun inside => ?_
  rw [keyTests_of_mem_criteria inside, List.mem_ite_nil_right, List.mem_singleton]
  constructor
  · rintro ⟨answers, rfl⟩
    exact ⟨rfl, answers⟩
  · rintro ⟨rfl, answers⟩
    exact ⟨answers, rfl⟩

theorem keyTests_ofExpression (expression : Expression) (column : Column) :
    (ofSearch { expression := some expression }).keyTests column = [] := by
  rw [ofSearch_expression]
  exact keyTests_expressionCondition column expression 0

end Filter

namespace Query

/-- What a search asks for by the columns with an index. -/
def Search.indexed (search : Search) : Search where
  eventTypes := search.eventTypes
  eventTime := search.eventTime

end Query

namespace Store

variable {planner : Planner} {filter : Filter} {search : Search} {row : Row} {table : Table}

theorem mem_criteria_indexed {own : Condition × List (String × BindValue)} {column : Column}
    (inside : own ∈ criteria search) (hasIndex : isIndexed column = true)
    (answers : own.1.isKeyTest column = true) : own ∈ criteria search.indexed := by
  rw [criteria_eq_flatMap, List.mem_flatMap] at inside ⊢
  rcases inside with ⟨criterion, among, inside⟩
  refine ⟨criterion, among, ?_⟩
  cases criterion with
  | eventTypes => exact inside
  | earliestEvent => exact inside
  | latestEvent => exact inside
  | id =>
      simp only [ownCriteria, idCriterion] at inside
      split at inside
      · split at inside
        · contradiction
        · rw [List.mem_singleton.mp inside] at answers
          simp [Condition.isKeyTest] at answers
      · contradiction
  | expression =>
      simp only [ownCriteria, expressionCriterion] at inside
      split at inside
      · rw [List.mem_singleton.mp inside] at answers
        contradiction
      · contradiction
  | _ =>
      simp only [ownCriteria, timeBound] at inside
      split at inside
      · rw [List.mem_singleton.mp inside] at answers
        simp only [Condition.isKeyTest, Bool.and_eq_true, beq_iff_eq] at answers
        rw [← answers.1.1] at hasIndex
        contradiction
      · contradiction

/-! ## Rows that are looked at -/

namespace Planner

section Chosen

variable {column : Column} (chosen : planner.indexFor? filter = some column)
include chosen

theorem isIndexed_of_indexFor? : isIndexed column = true := by
  rcases Option.bind_eq_some_iff.mp chosen with ⟨condition, -, chosen⟩
  exact planner.indexed chosen

theorem keyTests_ne_nil_of_indexFor? : filter.keyTests column ≠ [] := by
  rcases Option.bind_eq_some_iff.mp chosen with ⟨condition, present, chosen⟩
  rw [keyTests, present]
  exact planner.tested chosen

end Chosen

theorem indexFor?_eq_none (untested : ∀ column, filter.keyTests column = []) (planner : Planner) :
    planner.indexFor? filter = none := by
  cases chosen : planner.indexFor? filter with
  | none => rfl
  | some column => exact absurd (untested column) (keyTests_ne_nil_of_indexFor? chosen)

/-- A criterion for which an index is used judges every row. -/
theorem exists_accepts_of_indexFor? {criterion : Criterion} (asks : search.Asks criterion)
    {column : Column} (chosen : planner.indexFor? (ofSearch (search.only criterion)) = some column)
    (row : Column → Value) :
    ∃ verdict, (ofSearch (search.only criterion)).accepts row = .ok verdict := by
  rcases List.exists_mem_of_ne_nil _ (keyTests_ne_nil_of_indexFor? chosen) with ⟨test, inside⟩
  rcases mem_keyTests_ofSearch_iff.mp inside with ⟨own, among, rfl, answers⟩
  rcases ownCriteria_of_asks asks with ⟨only, single⟩
  rw [← criteria_only] at single
  rw [single, List.mem_singleton] at among
  rw [ofSearch_of_single single, ← among]
  exact Condition.exists_holds_of_isKeyTest answers _

theorem visits_of_passes (passed : filter.passes row.value = true) :
    planner.visits filter row = true := by
  unfold visits
  split
  · exact meetsKey_of_passes passed _
  · rfl

/-- A row that meets the event types and the bounds of the event time is looked at. -/
theorem visits_of_passes_indexed (passed : (ofSearch search.indexed).passes row.value = true) :
    planner.visits (ofSearch search) row = true := by
  unfold visits
  split
  · rename_i column chosen
    rw [meetsKey, List.all_eq_true]
    intro test inside
    rcases mem_keyTests_ofSearch_iff.mp inside with ⟨own, among, rfl, answers⟩
    have amongIndexed := mem_criteria_indexed among (isIndexed_of_indexFor? chosen) answers
    have tested : own.1 ∈ (ofSearch search.indexed).keyTests column :=
      mem_keyTests_ofSearch_iff.mpr ⟨own, amongIndexed, rfl, answers⟩
    have met := List.all_eq_true.mp (meetsKey_of_passes passed column) own.1 tested
    rw [passes_iff] at met ⊢
    exact (holds_of_mem_criteria among row.value).trans
      ((holds_of_mem_criteria amongIndexed row.value).symm.trans met)
  · rfl

end Planner

end Store

end TransactionLedger
