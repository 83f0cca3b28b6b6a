import TransactionLedger.Proofs.Filter.Compilation

/-!
# Searches as conjunctions

A search asks for up to seven criteria. Its condition joins theirs, one after the other, and its
text is read as this conjunction. Under distinct names every criterion keeps the values that it has
on its own, so a row passes the search exactly when it passes every criterion of it.
-/

namespace TransactionLedger

open TransactionLedger.Filter Query Sql

namespace Query

/-- What a search can ask for. -/
inductive Criterion
  | id
  | eventTypes
  | earliestEvent
  | latestEvent
  | earliestInsert
  | latestInsert
  | expression
  deriving DecidableEq, Repr

/-- Every criterion, in the order of the text. -/
def Criterion.all : List Criterion :=
  [id, eventTypes, earliestEvent, latestEvent, earliestInsert, latestInsert, expression]

namespace Search

/-- The search that keeps one criterion and drops the others. -/
def only (search : Search) : Criterion → Search
  | .id => { idFragment := search.idFragment }
  | .eventTypes => { eventTypes := search.eventTypes }
  | .earliestEvent => { eventTime := search.eventTime.map fun range => ⟨range.earliest, none⟩ }
  | .latestEvent => { eventTime := search.eventTime.map fun range => ⟨none, range.latest⟩ }
  | .earliestInsert => { insertTime := search.insertTime.map fun range => ⟨range.earliest, none⟩ }
  | .latestInsert => { insertTime := search.insertTime.map fun range => ⟨none, range.latest⟩ }
  | .expression => { expression := search.expression }

/-- The search asks for something by the criterion. -/
def Asks (search : Search) : Criterion → Prop
  | .id => search.idFragment.getD "" ≠ ""
  | .eventTypes => search.typeList ≠ []
  | .earliestEvent => (search.eventTime.bind TimeRange.earliest).isSome
  | .latestEvent => (search.eventTime.bind TimeRange.latest).isSome
  | .earliestInsert => (search.insertTime.bind TimeRange.earliest).isSome
  | .latestInsert => (search.insertTime.bind TimeRange.latest).isSome
  | .expression => search.expression.isSome

end Search

end Query

namespace Filter

/-! ## The criteria of a search -/

/-- What a search asks for by a criterion, with its values. -/
def ownCriteria (search : Search) : Criterion → List (Condition × List (String × BindValue))
  | .id => idCriterion search.idFragment
  | .eventTypes => eventTypeCriterion search.eventTypes
  | .earliestEvent =>
    timeBound .eventTimestamp .atLeast "etsf" (search.eventTime.bind TimeRange.earliest)
  | .latestEvent =>
    timeBound .eventTimestamp .atMost "etst" (search.eventTime.bind TimeRange.latest)
  | .earliestInsert =>
    timeBound .insertTimestamp .atLeast "itsf" (search.insertTime.bind TimeRange.earliest)
  | .latestInsert =>
    timeBound .insertTimestamp .atMost "itst" (search.insertTime.bind TimeRange.latest)
  | .expression => expressionCriterion search.expression

theorem timeCriteria_eq (column : Column) (earliestName latestName : String)
    (range : Option TimeRange) :
    timeCriteria column earliestName latestName range =
      timeBound column .atLeast earliestName (range.bind TimeRange.earliest) ++
        timeBound column .atMost latestName (range.bind TimeRange.latest) := by
  cases range <;> rfl

@[simp]
theorem timeBound_none (column : Column) (relation : Relation) (name : String) :
    timeBound column relation name none = [] :=
  rfl

theorem criteria_only (search : Search) (criterion : Criterion) :
    criteria (search.only criterion) = ownCriteria search criterion := by
  cases criterion <;>
    simp [criteria, Search.only, ownCriteria, timeCriteria_eq, idCriterion, eventTypeCriterion,
      expressionCriterion, Option.bind_map, Function.comp_def]

/-- The criteria of a search are those that it has one by one. -/
theorem criteria_eq_flatMap (search : Search) :
    criteria search = Criterion.all.flatMap (ownCriteria search) := by
  simp [criteria, Criterion.all, ownCriteria, timeCriteria_eq]

theorem ownCriteria_of_not_asks {search : Search} {criterion : Criterion}
    (silent : ¬ search.Asks criterion) : ownCriteria search criterion = [] := by
  rcases search with ⟨fragment, types, eventTime, insertTime, expression⟩
  cases criterion with
  | id =>
      cases fragment with
      | none => rfl
      | some fragment =>
          have blank : fragment = "" := by simpa [Search.Asks] using silent
          simp [ownCriteria, idCriterion, blank]
  | eventTypes =>
      rcases types with _ | _ | ⟨first, rest⟩
      · rfl
      · rfl
      · simp [Search.Asks, Search.typeList] at silent
  | expression =>
      cases expression with
      | none => rfl
      | some expression => simp [Search.Asks] at silent
  | _ =>
      simp only [Search.Asks, Bool.not_eq_true, Option.isSome_eq_false_iff,
        Option.isNone_iff_eq_none] at silent
      simp only [ownCriteria, silent, timeBound]

theorem criteria_of_asks_nothing {search : Search} (silent : ∀ criterion, ¬ search.Asks criterion) :
    criteria search = [] := by
  rw [criteria_eq_flatMap, List.flatMap_eq_nil_iff]
  exact fun criterion _ => ownCriteria_of_not_asks (silent criterion)

/-- A search that asks for nothing lets every record pass. -/
theorem ofSearch_of_asks_nothing {search : Search} (silent : ∀ criterion, ¬ search.Asks criterion) :
    ofSearch search = everything := by
  simp [ofSearch, criteria_of_asks_nothing silent, Condition.all?, everything]

theorem ownCriteria_of_asks {search : Search} {criterion : Criterion}
    (asks : search.Asks criterion) : ∃ own, ownCriteria search criterion = [own] := by
  rcases search with ⟨fragment, types, eventTime, insertTime, expression⟩
  cases criterion with
  | id =>
      cases fragment with
      | none => simp [Search.Asks] at asks
      | some fragment =>
          have present : fragment ≠ "" := by simpa [Search.Asks] using asks
          simp [ownCriteria, idCriterion, present]
  | eventTypes =>
      rcases types with _ | _ | ⟨first, rest⟩
      · simp [Search.Asks, Search.typeList] at asks
      · simp [Search.Asks, Search.typeList] at asks
      · exact ⟨_, rfl⟩
  | expression =>
      cases expression with
      | none => simp [Search.Asks] at asks
      | some expression => exact ⟨_, rfl⟩
  | _ =>
      rcases Option.isSome_iff_exists.mp asks with ⟨instant, present⟩
      simp only at present
      simp [ownCriteria, present, timeBound]

/-! ## Values of a criterion -/

theorem nodup_names_of_mem {search : Search} {own : Condition × List (String × BindValue)}
    (inside : own ∈ criteria search) : (own.2.map Prod.fst).Nodup := by
  rcases List.append_of_mem inside with ⟨front, back, split⟩
  have distinct := nodup_names_ofSearch search
  rw [names_ofSearch, split, boundNames_append, boundNames_cons] at distinct
  exact (List.nodup_append.mp (List.nodup_append.mp distinct).2.1).1

/-- The values of a criterion are found among those of all criteria. -/
theorem lookup_of_mem_criteria {criteria : List (Condition × List (String × BindValue))}
    (distinct : (boundNames criteria).Nodup) {own : Condition × List (String × BindValue)}
    (inside : own ∈ criteria) {name : String} (bound : name ∈ own.2.map Prod.fst) :
    (criteria.flatMap Prod.snd).lookup name = own.2.lookup name := by
  induction criteria with
  | nil => cases inside
  | cons first rest ih =>
      rw [boundNames_cons, List.nodup_append] at distinct
      rcases distinct with ⟨-, restDistinct, apart⟩
      rw [List.flatMap_cons, List.lookup_append]
      rcases List.mem_cons.mp inside with rfl | inside
      · have found : (own.2.lookup name).isSome := by
          rcases List.mem_map.mp bound with ⟨value, among, rfl⟩
          exact List.lookup_isSome_iff.mpr ⟨value, among, beq_self_eq_true _⟩
        rcases Option.isSome_iff_exists.mp found with ⟨value, found⟩
        rw [found, Option.some_or]
      · have inRest : name ∈ boundNames rest := by
          rcases List.mem_map.mp bound with ⟨value, among, rfl⟩
          exact List.mem_map_of_mem (List.mem_flatMap.mpr ⟨own, inside, among⟩)
        have notFirst : first.2.lookup name = none := by
          refine lookup_eq_none (List.Subset.refl _) name ?_
          rintro other among rfl
          exact apart name among name inRest rfl
        rw [notFirst, Option.none_or, ih restDistinct inside]

/-- A criterion as a filter of its own. -/
def alone (own : Condition × List (String × BindValue)) : Filter :=
  ⟨some own.1, own.2⟩

theorem ofSearch_of_single {search : Search} {own : Condition × List (String × BindValue)}
    (single : criteria search = [own]) : ofSearch search = alone own := by
  simp [ofSearch, single, alone, Condition.all?]

theorem ofSearch_expression (expression : Expression) :
    ofSearch { expression := some expression } =
      alone (.group (expressionCondition 0 expression), (ofExpression expression).values) := by
  apply ofSearch_of_single
  simp [criteria, idCriterion, eventTypeCriterion, timeCriteria, expressionCriterion]

/-- A search for an expression judges rows as the expression does. -/
theorem accepts_ofSearch_expression (expression : Expression) (row : Column → Value) :
    (ofSearch { expression := some expression }).accepts row =
      (ofExpression expression).accepts row := by
  rw [ofSearch_expression]
  rfl

/-- Among the values of all criteria, a criterion holds as it does on its own. -/
theorem holds_of_mem_criteria {search : Search} {own : Condition × List (String × BindValue)}
    (inside : own ∈ criteria search) (row : Column → Value) :
    own.1.holds ⟨row, (ofSearch search).bindings⟩ = (alone own).accepts row := by
  refine Condition.holds_congr rfl ?_
  intro name among
  have bound : name ∈ own.2.map Prod.fst := by
    rw [← bound_of_mem_criteria search own inside, List.mem_eraseDups]
    exact among
  have ownNames : (alone own).names.Nodup := nodup_names_of_mem inside
  rw [placeholder_bindings (nodup_names_ofSearch search), placeholder_bindings ownNames,
    boundValue, boundValue]
  have found := lookup_of_mem_criteria (nodup_names_ofSearch search) inside bound
  simp only [ofSearch, alone, found]

theorem holds_foldl_both {scope : Scope} {first : Condition}
    {rest : List (Condition × List (String × BindValue))}
    {verdict : Condition × List (String × BindValue) → Bool} {firstVerdict : Bool}
    (judged : first.holds scope = .ok firstVerdict)
    (restJudged : ∀ own ∈ rest, own.1.holds scope = .ok (verdict own)) :
    ((rest.map Prod.fst).foldl Condition.both first).holds scope =
      .ok (firstVerdict && rest.all verdict) := by
  induction rest generalizing first firstVerdict with
  | nil => simpa using judged
  | cons second rest ih =>
      rcases List.forall_mem_cons.mp restJudged with ⟨secondJudged, othersJudged⟩
      have together : (Condition.both first second.1).holds scope =
          .ok (firstVerdict && verdict second) := by
        simp only [Condition.holds, judged, secondJudged, ok_bind]
        cases firstVerdict <;> rfl
      rw [List.map_cons, List.foldl_cons, ih together othersJudged, List.all_cons, Bool.and_assoc]

theorem mem_criteria_iff {search : Search} {own : Condition × List (String × BindValue)} :
    own ∈ criteria search ↔
      ∃ criterion, search.Asks criterion ∧ criteria (search.only criterion) = [own] := by
  rw [criteria_eq_flatMap, List.mem_flatMap]
  constructor
  · rintro ⟨criterion, -, inside⟩
    by_cases asks : search.Asks criterion
    · rcases ownCriteria_of_asks asks with ⟨other, single⟩
      rw [single, List.mem_singleton] at inside
      subst inside
      exact ⟨criterion, asks, (criteria_only search criterion).trans single⟩
    · simp [ownCriteria_of_not_asks asks] at inside
  · rintro ⟨criterion, asks, single⟩
    refine ⟨criterion, by cases criterion <;> simp [Criterion.all], ?_⟩
    rw [← criteria_only, single]
    exact List.mem_singleton_self own

/-- A row that every criterion on its own can judge is judged by the search. -/
theorem accepts_ofSearch {search : Search} {row : Column → Value}
    (judged : ∀ criterion, search.Asks criterion →
      (ofSearch (search.only criterion)).accepts row =
        .ok ((ofSearch (search.only criterion)).passes row)) :
    (ofSearch search).accepts row =
      .ok ((criteria search).all fun own => (alone own).passes row) := by
  have ownJudged : ∀ own ∈ criteria search,
      own.1.holds ⟨row, (ofSearch search).bindings⟩ = .ok ((alone own).passes row) := by
    intro own inside
    rcases mem_criteria_iff.mp inside with ⟨criterion, asks, single⟩
    have accepted := judged criterion asks
    rw [ofSearch_of_single single] at accepted
    rw [holds_of_mem_criteria inside, accepted]
  cases found : criteria search with
  | nil => simp [accepts, ofSearch, found, Condition.all?]
  | cons first rest =>
      rw [found] at ownJudged
      rcases List.forall_mem_cons.mp ownJudged with ⟨firstJudged, restJudged⟩
      rw [accepts, condition_ofSearch found]
      exact holds_foldl_both firstJudged restJudged

/-- It passes the search if it passes every criterion. -/
theorem passes_ofSearch {search : Search} {row : Column → Value}
    (judged : ∀ criterion, search.Asks criterion →
      (ofSearch (search.only criterion)).accepts row =
        .ok ((ofSearch (search.only criterion)).passes row)) :
    (ofSearch search).passes row = true ↔ ∀ criterion, search.Asks criterion →
      (ofSearch (search.only criterion)).passes row = true := by
  rw [passes_of_accepts (accepts_ofSearch judged), List.all_eq_true]
  constructor
  · intro allPass criterion asks
    rcases ownCriteria_of_asks asks with ⟨own, single⟩
    rw [← criteria_only] at single
    rw [ofSearch_of_single single]
    exact allPass own (mem_criteria_iff.mpr ⟨criterion, asks, single⟩)
  · intro allPass own inside
    rcases mem_criteria_iff.mp inside with ⟨criterion, asks, single⟩
    rw [← ofSearch_of_single single]
    exact allPass criterion asks

/-! ## The reading of the text -/

/-- But for an expression, a criterion is a comparison or a list. -/
theorem plain_of_mem_ownCriteria {search : Search} {criterion : Criterion}
    (plain : criterion ≠ .expression) {own : Condition × List (String × BindValue)}
    (inside : own ∈ ownCriteria search criterion) :
    (∃ lhs relation rhs, own.1 = .compare lhs relation rhs) ∨
      ∃ subject choices, choices ≠ [] ∧ own.1 = .oneOf subject choices := by
  cases criterion with
  | id =>
      simp only [ownCriteria, idCriterion] at inside
      split at inside
      · split at inside
        · contradiction
        · rw [List.mem_singleton.mp inside]
          exact .inl ⟨_, _, _, rfl⟩
      · contradiction
  | eventTypes =>
      simp only [ownCriteria, eventTypeCriterion] at inside
      split at inside
      · rw [List.mem_singleton.mp inside]
        exact .inr ⟨_, _, by simp [numbered], rfl⟩
      · contradiction
  | expression => contradiction
  | _ =>
      simp only [ownCriteria, timeBound] at inside
      split at inside
      · rw [List.mem_singleton.mp inside]
        exact .inl ⟨_, _, _, rfl⟩
      · contradiction

theorem wellGrouped_of_mem_criteria {search : Search}
    {own : Condition × List (String × BindValue)} (inside : own ∈ criteria search) :
    own.1.WellGrouped .predicate := by
  rw [criteria_eq_flatMap, List.mem_flatMap] at inside
  rcases inside with ⟨criterion, -, inside⟩
  by_cases plain : criterion = .expression
  · subst plain
    simp only [ownCriteria, expressionCriterion] at inside
    split at inside
    · rw [List.mem_singleton.mp inside]
      exact wellGrouped_expressionCondition 0 _
    · contradiction
  · rcases plain_of_mem_ownCriteria plain inside with
      ⟨lhs, relation, rhs, test⟩ | ⟨subject, choices, nonempty, test⟩
    · rw [test]
      trivial
    · rw [test]
      exact nonempty

theorem wellGrouped_foldl_both {first : Condition} {rest : List Condition}
    (grouped : first.WellGrouped .conjunction)
    (restGrouped : ∀ condition ∈ rest, condition.WellGrouped .predicate) :
    (rest.foldl Condition.both first).WellGrouped .conjunction := by
  induction rest generalizing first with
  | nil => exact grouped
  | cons second rest ih =>
      rcases List.forall_mem_cons.mp restGrouped with ⟨secondGrouped, othersGrouped⟩
      exact ih ⟨grouped, secondGrouped⟩ othersGrouped

theorem not_reads_empty (reading : Condition) : ¬ Reads "" reading := by
  rintro ⟨lexemes, cut, reads⟩
  rcases Option.some.inj cut
  exact reads.ne_nil rfl

/-- The text of a search's filter is read as its condition, and the empty text as nothing. -/
theorem reads_ofSearch_iff {search : Search} {reading : Condition} :
    Reads (ofSearch search).text reading ↔
      (ofSearch search).condition.map Condition.ungrouped = some reading := by
  cases found : criteria search with
  | nil =>
      have condition : (ofSearch search).condition = none := by
        simp [ofSearch, found, Condition.all?]
      simp [Filter.text, condition, not_reads_empty]
  | cons first rest =>
      have ownGrouped : ∀ own ∈ criteria search, own.1.WellGrouped .predicate :=
        fun own inside => wellGrouped_of_mem_criteria inside
      have ownNamed : ∀ name ∈ (criteria search).flatMap fun own => own.1.placeholders,
          IsPlaceholderName name := fun name inside => isPlaceholderName_of_mem_criteria inside
      rw [found] at ownGrouped ownNamed
      rw [List.flatMap_cons] at ownNamed
      rcases List.forall_mem_cons.mp ownGrouped with ⟨firstGrouped, restGrouped⟩
      have grouped :
          ((rest.map Prod.fst).foldl Condition.both first.1).WellGrouped .conjunction := by
        apply wellGrouped_foldl_both firstGrouped.conjunction_of_predicate
        intro condition inside
        rcases List.mem_map.mp inside with ⟨own, among, rfl⟩
        exact restGrouped own among
      have named : ∀ name ∈ ((rest.map Prod.fst).foldl Condition.both first.1).placeholders,
          IsPlaceholderName name := by
        rwa [placeholders_foldl_both, List.flatMap_map]
      rw [Filter.text, condition_ofSearch found, Option.map_some,
        reads_text_iff grouped.disjunction_of_conjunction named, Option.some.injEq]
      exact eq_comm

/-! ## Event types -/

theorem orderIn_equal_text (value : Value) (text : String) :
    Relation.orderIn [.eq] value (.text text) = decide (value = .text text) := by
  cases value with
  | text other =>
      simp only [Relation.orderIn, Value.order?, Value.textOrder, Value.text.injEq]
      split
      · rename_i less
        have differs : other ≠ text := by
          rintro rfl
          exact absurd less (String.lt_irrefl other)
        simp [differs]
      · split
        · rename_i same
          simp [same]
        · rename_i differs
          simp [differs]
  | _ => simp [Relation.orderIn, Value.order?, Value.kindRank?]

theorem isOneOf_numbered {scope : Scope} {value : Value} {first : Nat} {types : List String}
    (bound : ∀ position type, types[position]? = some type →
      scope.placeholder (eventTypeName (first + position)) = .text type) :
    isOneOf scope value ((numbered eventTypeName first (types.map .text)).map
      fun value => .placeholder value.1) = .ok (decide (∃ type ∈ types, value = .text type)) := by
  induction types generalizing first with
  | nil => simp [numbered, isOneOf]
  | cons type rest ih =>
      have firstBound := bound 0 type rfl
      rw [Nat.add_zero] at firstBound
      have restBound : ∀ position other, rest[position]? = some other →
          scope.placeholder (eventTypeName (first + 1 + position)) = .text other := by
        intro position other inside
        rw [Nat.add_assoc, Nat.add_comm 1]
        exact bound (position + 1) other inside
      simp only [List.map_cons, numbered, isOneOf, Operand.evaluate, firstBound, Relation.holds,
        ok_bind, orderIn_equal_text, ih restBound, List.exists_mem_cons_iff]
      by_cases same : value = .text type <;> simp [same]

theorem eventTypeCriterion_of_ne_nil {types : List String} (nonempty : types ≠ []) :
    eventTypeCriterion (some types) =
      [(.oneOf (.column .eventType) ((numbered eventTypeName 0 (types.map .text)).map
        fun value => .placeholder value.1), numbered eventTypeName 0 (types.map .text))] := by
  cases types with
  | nil => exact absurd rfl nonempty
  | cons first rest => rfl

/-- A row passes the event types if its event type is one of those listed. -/
theorem accepts_eventTypes {search : Search} (asks : search.Asks .eventTypes)
    (row : Column → Value) :
    (ofSearch (search.only .eventTypes)).accepts row =
      .ok (decide (∃ type ∈ search.typeList, row .eventType = .text type)) := by
  have bound : ∀ position type, search.typeList[position]? = some type →
      (Scope.mk row (ofSearch (search.only .eventTypes)).bindings).placeholder
        (eventTypeName (0 + position)) = .text type := by
    intro position type inside
    have found := lookup_eventTypeName (search.only .eventTypes) position
    rw [show (search.only .eventTypes).typeList = search.typeList from rfl, inside] at found
    rw [placeholder_bindings (nodup_names_ofSearch _), boundValue, Nat.zero_add, found]
    rfl
  have listed : search.eventTypes = some search.typeList := by
    cases types : search.eventTypes with
    | none => simp [Search.Asks, Search.typeList, types] at asks
    | some types => simp [Search.typeList, types]
  have single := criteria_only search .eventTypes
  rw [ownCriteria, listed, eventTypeCriterion_of_ne_nil asks] at single
  rw [accepts, condition_ofSearch single]
  exact isOneOf_numbered bound

/-! ## Exact ids -/

/-- A row passes the filter of an id if it has exactly this id. -/
theorem accepts_ofId (id : String) (row : Column → Value) :
    (ofId id).accepts row = .ok (decide (row .uniqueId = .text id)) := by
  have judged : (ofId id).accepts row = .ok (Relation.orderIn [.eq] (row .uniqueId)
      ((Scope.mk row (ofId id).bindings).placeholder "id")) := rfl
  have distinct : (ofId id).names.Nodup := by simp [ofId, names]
  rw [judged, placeholder_bindings distinct, ← orderIn_equal_text]
  rfl

end Filter

end TransactionLedger
