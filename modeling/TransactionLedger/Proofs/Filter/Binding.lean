import TransactionLedger.Proofs.Filter.Naming

/-!
# The values of a search

Every placeholder in the text of a filter has one value, and every value has a placeholder. The
names are bound in the order in which they first occur in the text; a name occurs twice only for the
two bounds of a `BETWEEN`.
-/

namespace TransactionLedger

open TransactionLedger.Filter

namespace Query.Search

/-- The event types that a search lists. -/
def typeList (search : Search) : List String :=
  search.eventTypes.getD []

/-- The leaves of a search's expression. -/
def leaves (search : Search) : List Comparison :=
  match search.expression with
  | some expression => expression.leaves
  | none => []

end Query.Search

namespace Filter

open Query

theorem eraseDups_append_of_disjoint {front back : List String}
    (disjoint : ∀ name ∈ front, name ∉ back) :
    (front ++ back).eraseDups = front.eraseDups ++ back.eraseDups := by
  have untouched : back.removeAll front = back := by
    simp only [List.removeAll, List.filter_eq_self]
    intro name inside
    have absent : name ∉ front := fun inFront => disjoint name inFront inside
    simp [absent]
  rw [List.eraseDups_append, untouched]

theorem eraseDups_of_nodup {names : List String} (distinct : names.Nodup) :
    names.eraseDups = names := by
  induction names with
  | nil => rfl
  | cons name rest ih =>
      rcases List.nodup_cons.mp distinct with ⟨fresh, restDistinct⟩
      have untouched : rest.filter (fun other => !other == name) = rest := by
        rw [List.filter_eq_self]
        rintro other inside
        have differs : other ≠ name := fun same => fresh (same ▸ inside)
        simp [differs]
      rw [List.eraseDups_cons, untouched, ih restDistinct]

/-! ## Expressions -/

@[simp]
theorem placeholders_sideCondition (side : Expression) (condition : Condition) :
    (sideCondition side condition).placeholders = condition.placeholders := by
  cases side <;> rfl

@[simp]
theorem placeholders_joined (combinator : Combinator) (lhs rhs : Condition) :
    (joined combinator lhs rhs).placeholders = lhs.placeholders ++ rhs.placeholders := by
  cases combinator <;> rfl

theorem eraseDups_leafCondition (position : Nat) (comparison : Comparison) :
    (leafCondition position comparison).placeholders.eraseDups = [leafName position] := by
  cases operator : comparison.operator <;>
    simp [leafCondition, operator, Condition.placeholders, Operand.placeholders,
      List.eraseDups_cons]

theorem eraseDups_expressionCondition (first : Nat) (expression : Expression) :
    (expressionCondition first expression).placeholders.eraseDups =
      (List.range' first expression.leafCount).map leafName := by
  induction expression generalizing first with
  | leaf comparison => exact eraseDups_leafCondition first comparison
  | combine lhs combinator rhs ihLeft ihRight =>
      have numbers := List.range'_append_1 (s := first) (m := lhs.leafCount) (n := rhs.leafCount)
      have disjoint : ∀ name ∈ (expressionCondition first lhs).placeholders,
          name ∉ (expressionCondition (first + lhs.leafCount) rhs).placeholders := by
        intro name inLeft inRight
        rw [← List.mem_eraseDups, ihLeft] at inLeft
        rw [← List.mem_eraseDups, ihRight] at inRight
        rcases List.mem_map.mp inLeft with ⟨position, before, rfl⟩
        rcases List.mem_map.mp inRight with ⟨other, behind, same⟩
        rcases leafName_injective same
        rw [List.mem_range'_1] at before behind
        omega
      rw [expressionCondition, placeholders_joined, placeholders_sideCondition,
        placeholders_sideCondition, eraseDups_append_of_disjoint disjoint, ihLeft, ihRight,
        ← List.map_append, numbers, Expression.leafCount]

theorem isPlaceholderName_of_mem_expressionCondition {first : Nat} {expression : Expression} :
    ∀ name ∈ (expressionCondition first expression).placeholders, IsPlaceholderName name := by
  intro name inside
  rw [← List.mem_eraseDups, eraseDups_expressionCondition] at inside
  rcases List.mem_map.mp inside with ⟨position, -, rfl⟩
  exact isPlaceholderName_leafName position

/-! ## Criteria -/

/-- The values of a criterion are those of its placeholders, in the order of the text. -/
def Bound (criterion : Condition × List (String × BindValue)) : Prop :=
  criterion.1.placeholders.eraseDups = criterion.2.map Prod.fst

/-- The names of the values of some criteria. -/
def boundNames (criteria : List (Condition × List (String × BindValue))) : List String :=
  (criteria.flatMap Prod.snd).map Prod.fst

@[simp]
theorem boundNames_append (front back : List (Condition × List (String × BindValue))) :
    boundNames (front ++ back) = boundNames front ++ boundNames back := by
  simp [boundNames]

@[simp]
theorem boundNames_cons (first : Condition × List (String × BindValue))
    (rest : List (Condition × List (String × BindValue))) :
    boundNames (first :: rest) = first.2.map Prod.fst ++ boundNames rest := by
  simp [boundNames]

theorem boundNames_idCriterion (fragment : Option String) :
    (boundNames (idCriterion fragment)).Sublist ["uid"] := by
  cases fragment with
  | none => simp [idCriterion, boundNames]
  | some fragment =>
      simp only [idCriterion]
      split <;> simp [boundNames]

theorem boundNames_eventTypeCriterion (types : Option (List String)) :
    boundNames (eventTypeCriterion types) =
      (List.range (types.getD []).length).map eventTypeName := by
  rcases types with _ | _ | ⟨first, rest⟩
  · rfl
  · rfl
  · simp [eventTypeCriterion, boundNames, names_numbered, List.range_eq_range']

theorem boundNames_timeBound (column : Column) (relation : Relation) (name : String)
    (bound : Option Timestamp.Instant) :
    (boundNames (timeBound column relation name bound)).Sublist [name] := by
  cases bound <;> simp [timeBound, boundNames]

theorem boundNames_timeCriteria (column : Column) (earliestName latestName : String)
    (range : Option TimeRange) :
    (boundNames (timeCriteria column earliestName latestName range)).Sublist
      [earliestName, latestName] := by
  cases range with
  | none => simp [timeCriteria, boundNames]
  | some range =>
      simp only [timeCriteria, boundNames_append]
      exact (boundNames_timeBound _ _ _ _).append (boundNames_timeBound _ _ _ _)

theorem boundNames_expressionCriterion (search : Search) :
    boundNames (expressionCriterion search.expression) =
      (List.range search.leaves.length).map leafName := by
  cases expression : search.expression with
  | none => simp [expressionCriterion, boundNames, Search.leaves, expression]
  | some tree =>
      simp [expressionCriterion, boundNames, Search.leaves, expression, ofExpression,
        names_numbered, List.range_eq_range']

theorem bound_of_mem_idCriterion {fragment : Option String} :
    ∀ criterion ∈ idCriterion fragment, Bound criterion := by
  intro criterion inside
  cases fragment with
  | none => simp [idCriterion] at inside
  | some fragment =>
      simp only [idCriterion] at inside
      split at inside
      · simp at inside
      · rw [List.mem_singleton.mp inside]
        simp [Bound, Condition.placeholders, Operand.placeholders, List.eraseDups_cons]

theorem bound_of_mem_eventTypeCriterion {types : Option (List String)} :
    ∀ criterion ∈ eventTypeCriterion types, Bound criterion := by
  intro criterion inside
  rcases types with _ | _ | ⟨first, rest⟩
  · simp [eventTypeCriterion] at inside
  · simp [eventTypeCriterion] at inside
  · have distinct :
        ((numbered eventTypeName 0 ((first :: rest).map .text)).map Prod.fst).Nodup := by
      rw [names_numbered, ← List.range_eq_range']
      exact List.nodup_range.map eventTypeName_injective
    rw [List.mem_singleton.mp inside, Bound]
    simp only [Condition.placeholders, Operand.placeholders, List.nil_append, List.flatMap_map]
    rw [← List.map_eq_flatMap]
    exact eraseDups_of_nodup distinct

theorem bound_of_mem_timeBound {column : Column} {relation : Relation} {name : String}
    {bound : Option Timestamp.Instant} :
    ∀ criterion ∈ timeBound column relation name bound, Bound criterion := by
  intro criterion inside
  cases bound with
  | none => simp [timeBound] at inside
  | some instant =>
      rw [List.mem_singleton.mp inside]
      simp [Bound, Condition.placeholders, Operand.placeholders, List.eraseDups_cons]

theorem bound_of_mem_timeCriteria {column : Column} {earliestName latestName : String}
    {range : Option TimeRange} :
    ∀ criterion ∈ timeCriteria column earliestName latestName range, Bound criterion := by
  intro criterion inside
  cases range with
  | none => simp [timeCriteria] at inside
  | some range =>
      rcases List.mem_append.mp inside with inside | inside
      · exact bound_of_mem_timeBound criterion inside
      · exact bound_of_mem_timeBound criterion inside

theorem bound_of_mem_expressionCriterion {expression : Option Expression} :
    ∀ criterion ∈ expressionCriterion expression, Bound criterion := by
  intro criterion inside
  cases expression with
  | none => simp [expressionCriterion] at inside
  | some expression =>
      rw [List.mem_singleton.mp inside, Bound]
      have names := eraseDups_expressionCondition 0 expression
      simpa [Condition.placeholders, ofExpression, names_numbered] using names

theorem bound_of_mem_criteria (search : Search) :
    ∀ criterion ∈ criteria search, Bound criterion := by
  intro criterion inside
  simp only [criteria, List.mem_append] at inside
  rcases inside with (((inside | inside) | inside) | inside) | inside
  · exact bound_of_mem_idCriterion criterion inside
  · exact bound_of_mem_eventTypeCriterion criterion inside
  · exact bound_of_mem_timeCriteria criterion inside
  · exact bound_of_mem_timeCriteria criterion inside
  · exact bound_of_mem_expressionCriterion criterion inside

/-- Criteria that share no name are bound one after the other. -/
theorem eraseDups_criteria {criteria : List (Condition × List (String × BindValue))}
    (bound : ∀ criterion ∈ criteria, Bound criterion) (distinct : (boundNames criteria).Nodup) :
    (criteria.flatMap fun criterion => criterion.1.placeholders).eraseDups =
      boundNames criteria := by
  induction criteria with
  | nil => rfl
  | cons first rest ih =>
      have firstBound := bound first List.mem_cons_self
      have restBound := fun criterion inside => bound criterion (List.mem_cons_of_mem first inside)
      rw [boundNames_cons] at distinct
      rcases List.nodup_append.mp distinct with ⟨-, restDistinct, apart⟩
      have restNames := ih restBound restDistinct
      have disjoint : ∀ name ∈ first.1.placeholders,
          name ∉ rest.flatMap fun criterion => criterion.1.placeholders := by
        intro name inFirst inRest
        rw [← List.mem_eraseDups, firstBound] at inFirst
        rw [← List.mem_eraseDups, restNames] at inRest
        exact apart name inFirst name inRest rfl
      rw [List.flatMap_cons, eraseDups_append_of_disjoint disjoint, firstBound, restNames,
        boundNames_cons]

/-! ## Searches -/

theorem placeholders_foldl_both (first : Condition) (rest : List Condition) :
    (rest.foldl Condition.both first).placeholders =
      first.placeholders ++ rest.flatMap Condition.placeholders := by
  induction rest generalizing first with
  | nil => simp
  | cons second rest ih => simp [ih, Condition.placeholders]

theorem condition_ofSearch {search : Search} {first : Condition × List (String × BindValue)}
    {rest : List (Condition × List (String × BindValue))}
    (found : criteria search = first :: rest) :
    (ofSearch search).condition = some ((rest.map Prod.fst).foldl Condition.both first.1) := by
  simp [ofSearch, found, Condition.all?]

theorem names_ofSearch (search : Search) : (ofSearch search).names = boundNames (criteria search) :=
  rfl

theorem names_ofSearch_sublist (search : Search) :
    (ofSearch search).names.Sublist
      (searchNames search.typeList.length search.leaves.length) := by
  have types : boundNames (eventTypeCriterion search.eventTypes) =
      (List.range search.typeList.length).map eventTypeName := boundNames_eventTypeCriterion _
  simp only [names_ofSearch, criteria, boundNames_append, List.append_assoc, types,
    boundNames_expressionCriterion]
  refine (boundNames_idCriterion _).append ((List.Sublist.refl _).append ?_)
  exact (boundNames_timeCriteria _ _ _ _).append
    ((boundNames_timeCriteria _ _ _ _).append (List.Sublist.refl _))

theorem nodup_names_ofSearch (search : Search) : (ofSearch search).names.Nodup :=
  (nodup_searchNames _ _).sublist (names_ofSearch_sublist search)

theorem eraseDups_ofSearch (search : Search) :
    ((criteria search).flatMap fun criterion => criterion.1.placeholders).eraseDups =
      (ofSearch search).names :=
  eraseDups_criteria (bound_of_mem_criteria search) (nodup_names_ofSearch search)

theorem isPlaceholderName_of_mem_criteria {search : Search} {name : String}
    (inside : name ∈ (criteria search).flatMap fun criterion => criterion.1.placeholders) :
    IsPlaceholderName name := by
  rw [← List.mem_eraseDups, eraseDups_ofSearch] at inside
  exact isPlaceholderName_of_mem_searchNames ((names_ofSearch_sublist search).subset inside)

/-- The placeholders in the text of a search's filter are those of its criteria. -/
theorem placeholderTokens_ofSearch (search : Search) :
    placeholderTokens (ofSearch search).text.toList =
      (criteria search).flatMap fun criterion => criterion.1.placeholders := by
  have named : ∀ name ∈ (criteria search).flatMap fun criterion => criterion.1.placeholders,
      IsPlaceholderName name := fun name inside => isPlaceholderName_of_mem_criteria inside
  cases found : criteria search with
  | nil => simp [ofSearch, found, Condition.all?, Filter.text, placeholderTokens]
  | cons first rest =>
      have placeholders : ((rest.map Prod.fst).foldl Condition.both first.1).placeholders =
          (first :: rest).flatMap fun criterion => criterion.1.placeholders := by
        rw [placeholders_foldl_both, List.flatMap_map, List.flatMap_cons]
      rw [found, ← placeholders] at named
      rw [Filter.text, condition_ofSearch found, ← placeholders]
      exact placeholderTokens_text _ named

theorem lookup_eq_none {values : List (String × BindValue)} {names : List String}
    (listed : values.map Prod.fst ⊆ names) (name : String)
    (absent : ∀ other ∈ names, name ≠ other) : values.lookup name = none := by
  rw [List.lookup_eq_none_iff]
  intro value inside
  have differs := absent value.1 (listed (List.mem_map_of_mem inside))
  simpa using differs

theorem lookup_expressionCriterion (search : Search) (position : Nat) :
    ((expressionCriterion search.expression).flatMap Prod.snd).lookup (leafName position) =
      (search.leaves[position]?).map fun leaf => .ofJson leaf.value := by
  cases expression : search.expression with
  | none => simp [expressionCriterion, Search.leaves, expression]
  | some tree =>
      have found := lookup_numbered (tree.leaves.map fun leaf => .ofJson leaf.value)
        leafName_injective 0 position
      rw [Nat.zero_add, List.getElem?_map] at found
      simpa [expressionCriterion, Search.leaves, expression, ofExpression] using found

/-- Under the name of a leaf stands the leaf's value, and nothing beyond the last leaf. -/
theorem lookup_leafName (search : Search) (position : Nat) :
    (ofSearch search).values.lookup (leafName position) =
      (search.leaves[position]?).map fun leaf => .ofJson leaf.value := by
  have noId := lookup_eq_none (boundNames_idCriterion search.idFragment).subset (leafName position)
    (by simpa using leafName_ne rfl (by decide))
  have noType := lookup_eq_none (.refl (boundNames (eventTypeCriterion search.eventTypes)))
    (leafName position) (by
      simpa [boundNames_eventTypeCriterion] using
        fun type _ => leafName_ne_eventTypeName position type)
  have noEventTime := lookup_eq_none
    (boundNames_timeCriteria .eventTimestamp "etsf" "etst" search.eventTime).subset
    (leafName position) fun name inside =>
      leafName_ne_of_mem (List.mem_append_left ["itsf", "itst"] inside) position
  have noInsertTime := lookup_eq_none
    (boundNames_timeCriteria .insertTimestamp "itsf" "itst" search.insertTime).subset
    (leafName position) fun name inside =>
      leafName_ne_of_mem (List.mem_append_right ["etsf", "etst"] inside) position
  simp only [ofSearch, criteria, List.flatMap_append, List.lookup_append, noId, noType,
    noEventTime, noInsertTime, Option.none_or]
  exact lookup_expressionCriterion search position

theorem lookup_eventTypeCriterion (types : Option (List String)) (position : Nat) :
    ((eventTypeCriterion types).flatMap Prod.snd).lookup (eventTypeName position) =
      ((types.getD [])[position]?).map .text := by
  rcases types with _ | _ | ⟨first, rest⟩
  · rfl
  · rfl
  · have found := lookup_numbered ((first :: rest).map .text) eventTypeName_injective 0 position
    rw [Nat.zero_add, List.getElem?_map] at found
    simpa [eventTypeCriterion] using found

/-- Under the name of an event type stands the event type, and nothing beyond the last one. -/
theorem lookup_eventTypeName (search : Search) (position : Nat) :
    (ofSearch search).values.lookup (eventTypeName position) =
      (search.typeList[position]?).map .text := by
  have noId := lookup_eq_none (boundNames_idCriterion search.idFragment).subset
    (eventTypeName position) (by simpa using eventTypeName_ne rfl (by decide))
  have noEventTime := lookup_eq_none
    (boundNames_timeCriteria .eventTimestamp "etsf" "etst" search.eventTime).subset
    (eventTypeName position) (fun name inside =>
      eventTypeName_ne_of_mem (List.mem_append_left ["itsf", "itst"] inside) position)
  have noInsertTime := lookup_eq_none
    (boundNames_timeCriteria .insertTimestamp "itsf" "itst" search.insertTime).subset
    (eventTypeName position) (fun name inside =>
      eventTypeName_ne_of_mem (List.mem_append_right ["etsf", "etst"] inside) position)
  have noLeaf := lookup_eq_none (.refl (boundNames (expressionCriterion search.expression)))
    (eventTypeName position) (by
      simpa [boundNames_expressionCriterion] using
        fun leaf _ => (leafName_ne_eventTypeName leaf position).symm)
  simp only [ofSearch, criteria, List.flatMap_append, List.lookup_append, noId, noEventTime,
    noInsertTime, noLeaf, Option.none_or, Option.or_none]
  exact lookup_eventTypeCriterion search.eventTypes position

/-- Placeholders and values correspond: the names are distinct and are those in the text, in the
order in which they first occur there; the leaves of the expression and the event types stand under
their numbers. -/
theorem placeholders_bound (search : Search) :
    (ofSearch search).names.Nodup ∧
      (∀ name, name ∈ placeholderTokens (ofSearch search).text.toList ↔
        name ∈ (ofSearch search).names) ∧
      (placeholderTokens (ofSearch search).text.toList).eraseDups = (ofSearch search).names ∧
      search.leaves.length = (search.expression.map Expression.leafCount).getD 0 ∧
      (∀ position, (ofSearch search).values.lookup (leafName position) =
        (search.leaves[position]?).map fun leaf => .ofJson leaf.value) ∧
      (∀ position, (ofSearch search).values.lookup (eventTypeName position) =
        (search.typeList[position]?).map .text) := by
  have listed : (placeholderTokens (ofSearch search).text.toList).eraseDups =
      (ofSearch search).names := by
    rw [placeholderTokens_ofSearch, eraseDups_ofSearch]
  refine ⟨nodup_names_ofSearch search, ?_, listed, ?_, lookup_leafName search,
    lookup_eventTypeName search⟩
  · intro name
    rw [← listed, List.mem_eraseDups]
  · cases expression : search.expression <;> simp [Search.leaves, expression]

end Filter

end TransactionLedger
