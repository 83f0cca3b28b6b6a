import TransactionLedger.Proofs.Filter.Leaf
import TransactionLedger.Proofs.Query.Checking
import TransactionLedger.Proofs.Sql.Limits
import TransactionLedger.Proofs.Store.Fragment

/-!
# Rows that a search can judge

A row whose data are a printed object is judged by every search that has been checked and whose
patterns are short: each part of the data can be taken out, and a value that is bound as a text can
be taken apart again. Only a long pattern stands in the way, and a long id fragment does so in every
row that is looked at.
-/

namespace TransactionLedger

open TransactionLedger.Filter Query Sql

namespace Query

/-! ## Checked expressions -/

/-- Every leaf has a value that its operator accepts. -/
def Expression.Checked (expression : Expression) : Prop :=
  ∀ comparison ∈ expression.leaves, comparison.operator.accepts comparison.value = true

theorem Draft.States.checked {draft : Draft} {expression : Expression}
    (stated : draft.States expression) : expression.Checked := by
  induction stated with
  | combination _ _ _ ihLhs ihRhs => exact List.forall_mem_append.mpr ⟨ihLhs, ihRhs⟩
  | comparison _ _ suits =>
      intro leaf inside
      rw [List.mem_singleton.mp inside]
      exact Operator.accepts_iff.mpr suits

/-! ## Short patterns -/

/-- The pattern of a comparison. -/
def Comparison.pattern? (comparison : Comparison) : Option String :=
  match comparison.operator, comparison.value with
  | .like, .string pattern => some pattern
  | _, _ => none

/-- The patterns of a search: the one that finds its id fragment and those of its leaves. -/
def Search.patterns (search : Search) : List String :=
  search.idFragment.toList.map fragmentPattern ++ search.leaves.filterMap Comparison.pattern?

end Query

/-- The pattern can be matched. -/
def Sql.Pattern.IsShort (pattern : String) : Prop :=
  pattern.utf8ByteSize ≤ byteLimit

instance : DecidablePred Sql.Pattern.IsShort :=
  fun _ => inferInstanceAs (Decidable (_ ≤ _))

/-! ## Leaves -/

namespace Query

section Leaves

variable {room : Nat} {payload : Json}

theorem wellFormed_of_isScalar {value : Json} (scalar : value.isScalar = true) (room : Nat) :
    value.WellFormed room := by
  cases value with
  | array items => contradiction
  | object members => contradiction
  | _ => trivial

/-- The value of a range is a pair, and it is bound as a text that can be taken apart. -/
theorem exists_extracted_pair {value : Json} (accepted : Operator.between.accepts value = true)
    (path : List Segment) : ∃ part, extracted path (.ofBind (.ofJson value)) = .ok part := by
  unfold Operator.accepts at accepted
  split at accepted
  · rename_i low high _
    rcases Bool.and_eq_true_iff.mp accepted with ⟨lowScalar, highScalar⟩
    have wellFormed : (Json.array [low, high]).WellFormed 1 :=
      ⟨Nat.one_pos, wellFormed_of_isScalar lowScalar 0, wellFormed_of_isScalar highScalar 0,
        trivial⟩
    exact ⟨_, extracted_render wellFormed (by decide) path⟩
  all_goals contradiction

theorem exists_likeTruth {pattern : String} (short : Pattern.IsShort pattern) (value : Value) :
    ∃ truth, Relation.likeTruth value (.text pattern) = .ok truth := by
  have inLimit : ¬ Pattern.byteLimit < (String.ofList pattern.toList).utf8ByteSize := by
    rw [String.ofList_toList]
    exact Nat.not_lt.mpr short
  simp only [Relation.likeTruth, Value.textForm?, if_neg inLimit]
  exact ⟨_, rfl⟩

/-- A checked leaf with a short pattern has a truth value. -/
theorem Comparison.exists_truth {comparison : Comparison}
    (accepted : comparison.operator.accepts comparison.value = true)
    (short : ∀ pattern ∈ comparison.pattern?, Pattern.IsShort pattern)
    (wellFormed : payload.WellFormed room) (shallow : room ≤ Payload.depthLimit) :
    ∃ truth, comparison.truth (.text payload.render) = .ok truth := by
  rcases comparison with ⟨field, operator, value⟩
  have found := extracted_render wellFormed shallow field.steps
  cases operator with
  | like =>
      cases value with
      | string pattern =>
          rcases exists_likeTruth (short pattern rfl) (partValue field.steps payload) with
            ⟨truth, known⟩
          refine ⟨truth, ?_⟩
          simp only [Comparison.truth, found, ok_bind]
          exact known
      | _ => cases accepted
  | between =>
      rcases exists_extracted_pair accepted [.element ⟨['0'], isNumeral_zero⟩] with ⟨low, lowFound⟩
      rcases exists_extracted_pair accepted [.element ⟨['1'], isNumeral_one⟩] with ⟨high, highFound⟩
      simp only [Comparison.truth, found, lowFound, highFound, Relation.truth, ok_bind, pure_eq_ok]
      exact ⟨_, rfl⟩
  | _ =>
      simp only [Comparison.truth, found, Relation.truth, ok_bind]
      exact ⟨_, rfl⟩

end Leaves

/-- An expression is decided if its leaves have truth values. -/
theorem Expression.exists_satisfied {payload : Value} {expression : Expression}
    (known : ∀ comparison ∈ expression.leaves, ∃ truth, comparison.truth payload = .ok truth) :
    ∃ holds, expression.satisfied payload = .ok holds := by
  induction expression with
  | leaf comparison =>
      rcases known comparison (List.mem_singleton_self _) with ⟨truth, decided⟩
      exact ⟨truth.isTrue, by simp [satisfied, decided]⟩
  | combine lhs combinator rhs ihLeft ihRight =>
      rcases List.forall_mem_append.mp known with ⟨leftKnown, rightKnown⟩
      rcases ihLeft leftKnown with ⟨left, leftDecided⟩
      rcases ihRight rightKnown with ⟨right, rightDecided⟩
      cases combinator with
      | conjunction => exact ⟨left && right, by simp [satisfied, leftDecided, rightDecided]⟩
      | disjunction => exact ⟨left || right, by simp [satisfied, leftDecided, rightDecided]⟩

end Query

namespace Filter

/-- A row is judged by an expression as the expression is decided for its payload. -/
theorem accepts_ofExpression {expression : Expression} {row : Column → Value} {holds : Bool}
    (decided : expression.satisfied (row .data) = .ok holds) :
    (ofExpression expression).accepts row = .ok holds := by
  have truths : ((expression.reading 0).truth ⟨row, (ofExpression expression).bindings⟩).map
      Truth.isTrue = expression.satisfied (row .data) :=
    truth_reading expression fun _ _ inside => placeholder_ofExpression row inside
  rw [decided] at truths
  rcases map_eq_ok_iff.mp truths with ⟨truth, known, rfl⟩
  have judged := Condition.holds_of_truth known
  rw [← ungrouped_expressionCondition, holds_ungrouped] at judged
  exact judged

/-! ## Criteria -/

theorem exists_accepts_of_mem_timeBound {column : Column} {relation : Relation} {name : String}
    {instant : Option Timestamp.Instant} (compares : relation ≠ .like)
    {own : Condition × List (String × BindValue)}
    (inside : own ∈ timeBound column relation name instant) (row : Column → Value) :
    ∃ verdict, (alone own).accepts row = .ok verdict := by
  unfold timeBound at inside
  split at inside
  · rw [List.mem_singleton.mp inside]
    cases relation with
    | like => exact absurd rfl compares
    | _ => exact ⟨_, rfl⟩
  · contradiction

theorem likeHolds_of_long {pattern : String} (long : ¬Pattern.IsShort pattern) (value : Value) :
    Relation.likeHolds value (.text pattern) = .error .patternTooComplex := by
  have tooLong : Pattern.byteLimit < (String.ofList pattern.toList).utf8ByteSize := by
    rw [String.ofList_toList]
    exact Nat.lt_of_not_le long
  simp only [Relation.likeHolds, Value.textForm?, if_pos tooLong]

theorem holds_foldl_both_of_error {scope : Scope} {first : Condition} {rest : List Condition}
    {error : SqlError} (failed : first.holds scope = .error error) :
    (rest.foldl Condition.both first).holds scope = .error error := by
  induction rest generalizing first with
  | nil => exact failed
  | cons second rest ih =>
      apply ih
      simp only [Condition.holds, failed, error_bind]

end Filter

namespace Store

variable {search : Search} {row : Row}

/-- The data of the row are a printed object. -/
def Row.Printed (row : Row) : Prop :=
  ∃ data, row.cells.data = .text (Json.object data).render ∧
    (Json.object data).WellFormed Json.Node.nestingLimit

theorem Row.Printed.exists_accepts_ofExpression (printed : row.Printed) {expression : Expression}
    (checked : expression.Checked)
    (short : ∀ comparison ∈ expression.leaves, ∀ pattern ∈ comparison.pattern?,
      Pattern.IsShort pattern) :
    ∃ verdict, (ofExpression expression).accepts row.value = .ok verdict := by
  rcases printed with ⟨data, stored, wellFormed⟩
  have text : row.value .data = .text (Json.object data).render := by
    simp [Row.value, stored, Cell.value]
  have known : ∀ comparison ∈ expression.leaves,
      ∃ truth, comparison.truth (row.value .data) = .ok truth := by
    intro comparison leaf
    rw [text]
    exact Comparison.exists_truth (checked comparison leaf) (short comparison leaf) wellFormed
      (by decide)
  rcases Expression.exists_satisfied known with ⟨holds, decided⟩
  exact ⟨holds, accepts_ofExpression decided⟩

/-- A row whose data are a printed object is judged by each criterion of a search. -/
theorem Row.Printed.exists_accepts_only (printed : row.Printed)
    (checked : ∀ expression ∈ search.expression, expression.Checked)
    (short : ∀ pattern ∈ search.patterns, Pattern.IsShort pattern) {criterion : Criterion}
    (asks : search.Asks criterion) :
    ∃ verdict, (ofSearch (search.only criterion)).accepts row.value = .ok verdict := by
  rcases ownCriteria_of_asks asks with ⟨own, present⟩
  have single := (criteria_only search criterion).trans present
  have inside : own ∈ ownCriteria search criterion := present ▸ List.mem_singleton_self own
  cases criterion with
  | id =>
      cases given : search.idFragment with
      | none => simp [Search.Asks, given] at asks
      | some fragment =>
          have nonempty : fragment ≠ "" := by simpa [Search.Asks, given] using asks
          have shortPattern : Pattern.IsShort (fragmentPattern fragment) :=
            short _ (by simp [Search.patterns, given])
          rw [Search.only, given]
          exact ⟨_, accepts_ofFragment nonempty shortPattern row.cells.uniqueId.textForm?_value⟩
  | eventTypes => exact ⟨_, accepts_eventTypes asks row.value⟩
  | expression =>
      cases given : search.expression with
      | none => simp [Search.Asks, given] at asks
      | some expression =>
          have shortLeaves : ∀ comparison ∈ expression.leaves, ∀ pattern ∈ comparison.pattern?,
              Pattern.IsShort pattern := by
            intro comparison leaf pattern found
            apply short
            simp only [Search.patterns, Search.leaves, given, List.mem_append, List.mem_filterMap]
            exact .inr ⟨comparison, leaf, found⟩
          rw [ofSearch_of_single single]
          rw [ownCriteria, given] at present
          rcases List.singleton_inj.mp present with rfl
          exact printed.exists_accepts_ofExpression (checked expression given) shortLeaves
  | _ =>
      rw [ofSearch_of_single single]
      exact exists_accepts_of_mem_timeBound (by decide) inside row.value

/-- It is judged by the search. -/
theorem Row.Printed.accepts_ofSearch (printed : row.Printed)
    (checked : ∀ expression ∈ search.expression, expression.Checked)
    (short : ∀ pattern ∈ search.patterns, Pattern.IsShort pattern) :
    (ofSearch search).accepts row.value = .ok ((ofSearch search).passes row.value) := by
  have single : ∀ criterion, search.Asks criterion →
      (ofSearch (search.only criterion)).accepts row.value =
        .ok ((ofSearch (search.only criterion)).passes row.value) := by
    intro criterion asks
    rcases printed.exists_accepts_only checked short asks with ⟨verdict, accepted⟩
    rw [passes_of_accepts accepted, accepted]
  have judged := Filter.accepts_ofSearch single
  rw [passes_of_accepts judged, judged]

/-- A fragment that is too long cannot be looked for in any row. -/
theorem Row.accepts_of_long_fragment {fragment : String}
    (given : search.idFragment = some fragment)
    (long : ¬Pattern.IsShort (fragmentPattern fragment)) (row : Row) :
    (ofSearch search).accepts row.value = .error .patternTooComplex := by
  have nonempty : fragment ≠ "" := by
    rintro rfl
    exact long (by decide)
  have asks : search.Asks .id := by simpa [Search.Asks, given] using nonempty
  rcases ownCriteria_of_asks asks with ⟨own, present⟩
  have single := (criteria_only search .id).trans present
  have found : criteria search = own :: Criterion.all.tail.flatMap (ownCriteria search) := by
    rw [criteria_eq_flatMap, Criterion.all, List.flatMap_cons, present]
    rfl
  have failed : own.1.holds ⟨row.value, (ofSearch search).bindings⟩ =
      .error .patternTooComplex := by
    rw [holds_of_mem_criteria (found ▸ List.mem_cons_self), ← ofSearch_of_single single,
      Search.only, given, accepts_ofFragment_eq nonempty]
    exact likeHolds_of_long long (row.value .uniqueId)
  rw [accepts, condition_ofSearch found]
  exact holds_foldl_both_of_error failed

/-! ## Selections -/

variable {database : Database} {table : Table}

theorem Database.exists_select_ofSearch (reached : database.table = .ok table)
    (readable : ∀ row ∈ table.rows, ∃ entry, row.entry = .ok entry)
    (printed : ∀ row ∈ table.rows, row.Printed) (fits : search.Fits)
    (checked : ∀ expression ∈ search.expression, expression.Checked)
    (short : ∀ pattern ∈ search.patterns, Pattern.IsShort pattern) :
    ∃ entries, database.select (ofSearch search) = .ok entries ∧
      (table.rows.filter fun row => (ofSearch search).passes row.value).mapM Row.entry =
        .ok entries := by
  have judged : ∀ row ∈ table.rows,
      (ofSearch search).accepts row.value = .ok ((ofSearch search).passes row.value) :=
    fun row inside => (printed row inside).accepts_ofSearch checked short
  have decodes : ∀ row ∈ table.rows.filter fun row => (ofSearch search).passes row.value,
      ∃ entry, row.entry = .ok entry :=
    fun row inside => readable row (List.mem_of_mem_filter inside)
  rcases exists_mapM_of_forall decodes with ⟨entries, walked⟩
  refine ⟨entries, ?_, walked⟩
  exact (select_eq_ok_iff reached (checkLimits_ofSearch_iff.mpr fits) judged).mpr walked

theorem Database.select_of_refused {filter : Filter} {error : SqlError}
    (reached : database.table = .ok table) (refused : filter.checkLimits = .error error) :
    database.select filter = .error (.database error) := by
  rcases bind_eq_ok_iff.mp reached with ⟨found, opened, -⟩
  simp [select, opened, refused, Except.mapError]

/-- Where no row that is looked at can be judged, a selection fails as its judging does. -/
theorem Table.select_of_unjudged {planner : Planner} {filter : Filter} {error : SqlError}
    (looked : table.visited planner filter ≠ [])
    (failed : ∀ row : Row, filter.accepts row.value = .error error) :
    table.select planner filter = .error (.database error) := by
  rcases List.exists_cons_of_ne_nil looked with ⟨row, rest, visited⟩
  simp only [select, visited]
  cases planner.judgedAhead filter (row :: rest) with
  | nil => simp [matchingRows, failed row, Except.mapError]
  | cons first others => simp [failed first, Except.mapError]

end Store

end TransactionLedger
