import Mathlib
import TransactionLedger.Proofs.Filter.Criteria
import TransactionLedger.Sql.Statement

/-!
# Searches that fit into a statement

Whether the statement of a search can be read can be told from the search: it has a placeholder for
every id fragment, event type, bound and leaf, and it goes as deep as its expression is nested to
the right. A search fits if both stay within the limits.
-/

namespace TransactionLedger

open TransactionLedger.Filter Query

namespace Filter

/-! ## Levels of conditions -/

/-- The deepest level to which reading a condition leads. -/
def Condition.levels : Condition → Nat
  | compare .. => 0
  | between .. => 4
  | oneOf .. => 0
  | both lhs rhs => max lhs.levels (rhs.levels + 2)
  | either lhs rhs => max lhs.levels (rhs.levels + 2)
  | group inner => inner.levels + 1

@[simp]
theorem withinDepth_append (front back : List Demand) :
    withinDepth (front ++ back) = (withinDepth front && withinDepth back) :=
  List.all_append

@[simp]
theorem withinDepth_operand (depth : Nat) (operand : Operand) :
    withinDepth (operand.demands depth) = decide (depth ≤ depthLimit) := by
  simp [Operand.demands, withinDepth]

theorem withinDepth_choices {depth : Nat} (fits : depth ≤ depthLimit) (choices : List Operand) :
    withinDepth (choices.flatMap (·.demands depth)) = true := by
  induction choices with
  | nil => rfl
  | cons choice rest ih => simp [fits, ih]

theorem withinDepth_demands (condition : Condition) (depth : Nat) :
    withinDepth (condition.demands depth) = true ↔ depth + condition.levels ≤ depthLimit := by
  induction condition generalizing depth with
  | compare lhs relation rhs => simp [Condition.demands, Condition.levels]
  | between subject low high =>
      simp only [Condition.demands, Condition.levels, withinDepth_append, withinDepth_operand,
        Bool.and_eq_true, decide_eq_true_eq]
      omega
  | oneOf subject choices =>
      simp only [Condition.demands, Condition.levels, withinDepth_append, withinDepth_operand,
        Bool.and_eq_true, decide_eq_true_eq, Nat.add_zero]
      exact ⟨And.left, fun fits => ⟨fits, withinDepth_choices fits choices⟩⟩
  | both lhs rhs ihLeft ihRight =>
      simp only [Condition.demands, Condition.levels, withinDepth_append, Bool.and_eq_true, ihLeft,
        ihRight]
      omega
  | either lhs rhs ihLeft ihRight =>
      simp only [Condition.demands, Condition.levels, withinDepth_append, Bool.and_eq_true, ihLeft,
        ihRight]
      omega
  | group inner ih =>
      simp only [Condition.demands, Condition.levels, ih]
      omega

theorem levels_foldl_both_le_iff {limit : Nat} {first : Condition} {rest : List Condition} :
    (rest.foldl Condition.both first).levels ≤ limit ↔
      first.levels ≤ limit ∧ ∀ condition ∈ rest, condition.levels + 2 ≤ limit := by
  induction rest generalizing first with
  | nil => simp
  | cons second rest ih =>
      simp only [List.foldl_cons, ih, Condition.levels, List.forall_mem_cons, Nat.max_le, and_assoc]

/-- A statement can be read if it has no more placeholders and goes no deeper than is allowed. -/
theorem checkLimits_eq_ok_iff {filter : Filter} :
    filter.checkLimits = .ok () ↔ filter.names.length ≤ variableLimit ∧
      ∀ condition ∈ filter.condition, condition.levels ≤ depthLimit := by
  cases beyond : filter.names[variableLimit]? with
  | none =>
      have few := List.getElem?_eq_none_iff.mp beyond
      simp only [checkLimits, beyond, few, true_and]
      cases filter.condition with
      | none => simp [withinDepth]
      | some condition =>
          have within := withinDepth_demands condition 0
          rw [Nat.zero_add] at within
          simp [← within]
  | some name =>
      rcases List.getElem?_eq_some_iff.mp beyond with ⟨many, -⟩
      apply iff_of_false
      · simp only [checkLimits, beyond]
        generalize withinDepth _ = fits
        cases fits <;> exact nofun
      · exact fun fits => absurd fits.1 (Nat.not_le.mpr many)

end Filter

/-! ## What a search takes -/

namespace Query

/-- A side that is itself a combination stands in parentheses. -/
def Expression.parentheses : Expression → Nat
  | leaf _ => 0
  | combine .. => 1

/-- The deepest level to which reading an expression leads. -/
def Expression.levels : Expression → Nat
  | leaf comparison => if comparison.operator = .between then 4 else 0
  | combine lhs _ rhs =>
    max (lhs.parentheses + lhs.levels) (2 + rhs.parentheses + rhs.levels)

namespace Search

instance (search : Search) : DecidablePred search.Asks
  | .id => inferInstanceAs (Decidable (_ ≠ _))
  | .eventTypes => inferInstanceAs (Decidable (_ ≠ _))
  | .earliestEvent => inferInstanceAs (Decidable (_ = true))
  | .latestEvent => inferInstanceAs (Decidable (_ = true))
  | .earliestInsert => inferInstanceAs (Decidable (_ = true))
  | .latestInsert => inferInstanceAs (Decidable (_ = true))
  | .expression => inferInstanceAs (Decidable (_ = true))

/-- The number of placeholders for a criterion. -/
def valueCount (search : Search) : Criterion → Nat
  | .eventTypes => search.typeList.length
  | .expression => search.leaves.length
  | criterion => if search.Asks criterion then 1 else 0

/-- The search fits into a statement. Its expression stands in parentheses, and it stands deeper
behind other criteria. -/
structure Fits (search : Search) : Prop where
  values : (Criterion.all.map search.valueCount).sum ≤ variableLimit
  alone : ∀ expression ∈ search.expression, 1 + expression.levels ≤ depthLimit
  behind : ∀ expression ∈ search.expression, (∃ criterion ≠ .expression, search.Asks criterion) →
    3 + expression.levels ≤ depthLimit

end Search

end Query

namespace Filter

theorem levels_sideCondition (side : Expression) (condition : Condition) :
    (sideCondition side condition).levels = side.parentheses + condition.levels := by
  cases side with
  | leaf comparison => exact (Nat.zero_add _).symm
  | combine lhs combinator rhs => exact Nat.add_comm _ _

theorem levels_joined (combinator : Combinator) (lhs rhs : Condition) :
    (joined combinator lhs rhs).levels = max lhs.levels (rhs.levels + 2) := by
  cases combinator <;> rfl

theorem levels_expressionCondition (first : Nat) (expression : Expression) :
    (expressionCondition first expression).levels = expression.levels := by
  induction expression generalizing first with
  | leaf comparison =>
      cases operator : comparison.operator <;>
        simp [expressionCondition, leafCondition, operator, Condition.levels, Expression.levels]
  | combine lhs combinator rhs ihLeft ihRight =>
      rw [expressionCondition, levels_joined, levels_sideCondition, levels_sideCondition, ihLeft,
        ihRight, Expression.levels]
      omega

theorem length_boundNames_ownCriteria (search : Search) (criterion : Criterion) :
    (boundNames (ownCriteria search criterion)).length = search.valueCount criterion := by
  have bound (column : Column) (relation : Relation) (name : String)
      (instant : Option Timestamp.Instant) :
      (boundNames (timeBound column relation name instant)).length =
        if instant.isSome then 1 else 0 := by
    cases instant <;> rfl
  rcases search with ⟨fragment, types, eventTime, insertTime, expression⟩
  cases criterion with
  | id =>
      cases fragment with
      | none => rfl
      | some fragment =>
          by_cases blank : fragment = "" <;>
            simp [ownCriteria, Search.valueCount, Search.Asks, idCriterion, blank, boundNames]
  | eventTypes =>
      rw [ownCriteria, boundNames_eventTypeCriterion, List.length_map, List.length_range]
      rfl
  | expression =>
      rw [ownCriteria, boundNames_expressionCriterion, List.length_map, List.length_range]
      rfl
  | _ => exact bound _ _ _ _

/-- The number of placeholders of a search. -/
theorem length_names_ofSearch (search : Search) :
    (ofSearch search).names.length = (Criterion.all.map search.valueCount).sum := by
  have sum (some : List Criterion) : (boundNames (some.flatMap (ownCriteria search))).length =
      (some.map search.valueCount).sum := by
    induction some with
    | nil => rfl
    | cons criterion rest ih =>
        simp [length_boundNames_ownCriteria, ih]
  rw [names_ofSearch, criteria_eq_flatMap, sum]

/-! ## Searches that fit -/

/-- The criteria but for the expression. -/
def plainCriteria (search : Search) : List (Condition × List (String × BindValue)) :=
  Criterion.all.dropLast.flatMap (ownCriteria search)

theorem criteria_eq_plainCriteria (search : Search) :
    criteria search = plainCriteria search ++ expressionCriterion search.expression := by
  rw [criteria_eq_flatMap, plainCriteria]
  simp [Criterion.all, ownCriteria]

theorem ne_expression_of_mem_dropLast {criterion : Criterion}
    (among : criterion ∈ Criterion.all.dropLast) : criterion ≠ .expression := by
  rintro rfl
  exact absurd among (by decide)

theorem levels_of_mem_plainCriteria {search : Search}
    {own : Condition × List (String × BindValue)} (inside : own ∈ plainCriteria search) :
    own.1.levels = 0 := by
  rcases List.mem_flatMap.mp inside with ⟨criterion, among, inside⟩
  rcases plain_of_mem_ownCriteria (ne_expression_of_mem_dropLast among) inside with
    ⟨lhs, relation, rhs, test⟩ | ⟨subject, choices, -, test⟩
  · rw [test]
    rfl
  · rw [test]
    rfl

theorem plainCriteria_ne_nil_iff {search : Search} :
    plainCriteria search ≠ [] ↔ ∃ criterion ≠ .expression, search.Asks criterion := by
  simp only [plainCriteria, ne_eq, List.flatMap_eq_nil_iff, not_forall]
  constructor
  · rintro ⟨criterion, among, present⟩
    refine ⟨criterion, ne_expression_of_mem_dropLast among, ?_⟩
    by_contra silent
    exact present (ownCriteria_of_not_asks silent)
  · rintro ⟨criterion, other, asks⟩
    refine ⟨criterion, ?_, ?_⟩
    · cases criterion with
      | expression => exact absurd rfl other
      | _ => decide
    · rcases ownCriteria_of_asks asks with ⟨own, single⟩
      simp [single]

theorem levels_ofSearch_iff {search : Search} :
    (∀ condition ∈ (ofSearch search).condition, condition.levels ≤ depthLimit) ↔
      ∀ expression ∈ search.expression, 1 + expression.levels ≤ depthLimit ∧
        ((∃ criterion ≠ .expression, search.Asks criterion) →
          3 + expression.levels ≤ depthLimit) := by
  have split := criteria_eq_plainCriteria search
  cases plain : plainCriteria search with
  | nil =>
      have silent : ¬∃ criterion ≠ .expression, search.Asks criterion :=
        fun asks => plainCriteria_ne_nil_iff.mpr asks plain
      rw [plain, List.nil_append] at split
      cases given : search.expression with
      | none => simp [ofSearch, split, given, expressionCriterion, Condition.all?]
      | some expression =>
          simp [ofSearch, split, given, expressionCriterion, Condition.all?, Condition.levels,
            levels_expressionCondition, silent, Nat.add_comm]
  | cons first rest =>
      have asks : ∃ criterion ≠ .expression, search.Asks criterion :=
        plainCriteria_ne_nil_iff.mp (by simp [plain])
      have flat : ∀ own ∈ first :: rest, own.1.levels = 0 :=
        fun own inside => levels_of_mem_plainCriteria (plain ▸ inside)
      rcases List.forall_mem_cons.mp flat with ⟨firstFlat, restFlat⟩
      have restFits : ∀ condition ∈ rest.map Prod.fst, condition.levels + 2 ≤ depthLimit := by
        intro condition inside
        rcases List.mem_map.mp inside with ⟨own, among, rfl⟩
        rw [restFlat own among]
        decide
      rw [plain, List.cons_append] at split
      simp only [condition_ofSearch split, Option.mem_some_iff, forall_eq', levels_foldl_both_le_iff,
        firstFlat, List.map_append, List.forall_mem_append]
      cases given : search.expression with
      | none =>
          exact iff_of_true ⟨Nat.zero_le _, restFits, by simp [expressionCriterion]⟩ (by simp)
      | some expression =>
          simp only [expressionCriterion, List.map_singleton, List.forall_mem_singleton,
            Condition.levels, levels_expressionCondition, Option.mem_some_iff, forall_eq']
          constructor
          · rintro ⟨-, -, deep⟩
            exact ⟨by omega, fun _ => by omega⟩
          · rintro ⟨-, deep⟩
            have fits := deep asks
            exact ⟨Nat.zero_le _, restFits, by omega⟩

/-- The statement of a search can be read if the search fits. -/
theorem checkLimits_ofSearch_iff {search : Search} :
    (ofSearch search).checkLimits = .ok () ↔ search.Fits := by
  rw [checkLimits_eq_ok_iff, length_names_ofSearch, levels_ofSearch_iff]
  constructor
  · rintro ⟨values, levels⟩
    exact ⟨values, fun expression given => (levels expression given).1,
      fun expression given => (levels expression given).2⟩
  · rintro ⟨values, alone, behind⟩
    exact ⟨values, fun expression given => ⟨alone expression given, behind expression given⟩⟩

/-- A search for nothing but an expression fits if the expression does. -/
theorem fits_of_expression {expression : Expression} (few : expression.leafCount ≤ variableLimit)
    (flat : 1 + expression.levels ≤ depthLimit) :
    Search.Fits { expression := some expression } where
  values := by
    simpa [Criterion.all, Search.valueCount, Search.typeList, Search.Asks, Search.leaves] using few
  alone := by simpa using flat
  behind := by
    rintro other given ⟨criterion, different, asks⟩
    cases criterion <;> simp [Search.Asks, Search.typeList] at asks different

end Filter

end TransactionLedger
