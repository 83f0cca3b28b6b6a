import TransactionLedger.Proofs.Filter.Criteria

/-!
# What a caller can put into the text of a filter

The text of a search's filter, and the names of its placeholders, depend on the form of the search
alone: on what it asks for, on the number of event types, and on the fields and operators of its
expression. Nothing else that a caller supplies reaches the text. The only quoted texts are the
paths of the fields, and no character of a path can close the quote.
-/

namespace TransactionLedger

open TransactionLedger.Filter Query

namespace Query

/-- Two expressions are of the same form: the same combinators over leaves with the same fields and
operators. The compared values may differ. -/
inductive Expression.Alike : Expression → Expression → Prop
  | leaf {first second : Comparison} (field : first.field = second.field)
      (operator : first.operator = second.operator) : Alike (.leaf first) (.leaf second)
  | combine {lhs rhs otherLhs otherRhs : Expression} (combinator : Combinator)
      (left : Alike lhs otherLhs) (right : Alike rhs otherRhs) :
      Alike (.combine lhs combinator rhs) (.combine otherLhs combinator otherRhs)

/-- Two searches are of the same form: they ask for something by the same criteria, list equally
many event types, and have expressions of the same form if any. -/
structure Search.Alike (search other : Search) : Prop where
  asks : ∀ criterion, search.Asks criterion ↔ other.Asks criterion
  eventTypes : search.typeList.length = other.typeList.length
  expression : Option.Rel Expression.Alike search.expression other.expression

end Query

namespace Filter

/-! ## Searches of the same form -/

/-- What a criterion shows of itself: its condition, and the names of its values. -/
def outline (own : Condition × List (String × BindValue)) : Condition × List String :=
  (own.1, own.2.map Prod.fst)

theorem text_ofSearch_congr {search other : Search}
    (same : (criteria search).map outline = (criteria other).map outline) :
    (ofSearch search).text = (ofSearch other).text ∧
      (ofSearch search).names = (ofSearch other).names := by
  have conditions := congrArg (List.map Prod.fst) same
  have names := congrArg (List.flatMap Prod.snd) same
  simp only [List.map_map, List.flatMap_map] at conditions names
  refine ⟨?_, ?_⟩
  · have shown : Prod.fst ∘ outline = Prod.fst := rfl
    rw [shown] at conditions
    simp only [Filter.text, ofSearch, conditions]
  · simpa [Filter.names, ofSearch, List.map_flatMap, outline] using names

theorem outline_idCriterion (fragment : Option String) :
    (idCriterion fragment).map outline =
      if fragment.getD "" = "" then []
      else [(.compare (.column .uniqueId) .like (.placeholder "uid"), ["uid"])] := by
  cases fragment with
  | none => rfl
  | some fragment => by_cases blank : fragment = "" <;> simp [idCriterion, outline, blank]

theorem outline_eventTypeCriterion (types : Option (List String)) :
    (eventTypeCriterion types).map outline =
      let names := (List.range (types.getD []).length).map eventTypeName
      if names = [] then []
      else [(.oneOf (.column .eventType) (names.map .placeholder), names)] := by
  rcases types with _ | _ | ⟨first, rest⟩
  · rfl
  · rfl
  · have names : ((numbered eventTypeName 0 ((first :: rest).map .text)).map Prod.fst) =
        (List.range' 0 ((first :: rest).map BindValue.text).length).map eventTypeName :=
      names_numbered _ 0
    rw [List.length_map, ← List.range_eq_range'] at names
    have choices := congrArg (List.map Operand.placeholder) names
    rw [List.map_map] at choices
    simp only [eventTypeCriterion, outline, List.map_singleton, names, Option.getD_some]
    rw [if_neg (by simp), ← choices]
    rfl

theorem outline_timeBound (column : Column) (relation : Relation) (name : String)
    (bound : Option Timestamp.Instant) :
    (timeBound column relation name bound).map outline =
      if bound.isSome then [(.compare (.column column) relation (.placeholder name), [name])]
      else [] := by
  cases bound <;> rfl

theorem leafCondition_congr (position : Nat) {first second : Comparison}
    (field : first.field = second.field) (operator : first.operator = second.operator) :
    leafCondition position first = leafCondition position second := by
  rw [leafCondition, leafCondition, field, operator]

theorem leafCount_of_alike {expression other : Expression} (alike : expression.Alike other) :
    expression.leafCount = other.leafCount := by
  induction alike with
  | leaf => rfl
  | combine combinator left right ihLeft ihRight => rw [Expression.leafCount, ihLeft, ihRight]; rfl

theorem sideCondition_of_alike {expression other : Expression} (alike : expression.Alike other)
    (condition : Condition) : sideCondition expression condition = sideCondition other condition := by
  cases alike <;> rfl

/-- The numbers of the leaves on the right depend on how many there are on the left, so the
numbering stays in step. -/
theorem expressionCondition_of_alike {expression other : Expression}
    (alike : expression.Alike other) (first : Nat) :
    expressionCondition first expression = expressionCondition first other := by
  induction alike generalizing first with
  | leaf field operator => exact leafCondition_congr first field operator
  | combine combinator left right ihLeft ihRight =>
      rw [expressionCondition, expressionCondition, ihLeft, ihRight, leafCount_of_alike left,
        sideCondition_of_alike left, sideCondition_of_alike right]

theorem outline_expressionCriterion {expression other : Option Expression}
    (alike : Option.Rel Expression.Alike expression other) :
    (expressionCriterion expression).map outline = (expressionCriterion other).map outline := by
  cases alike with
  | none => rfl
  | some alike =>
      simp [expressionCriterion, outline, ofExpression, names_numbered,
        expressionCondition_of_alike alike, leafCount_of_alike alike]

theorem outline_ownCriteria {search other : Search} (alike : search.Alike other)
    (criterion : Criterion) :
    (ownCriteria search criterion).map outline = (ownCriteria other criterion).map outline := by
  have same := alike.asks criterion
  cases criterion with
  | id =>
      simp only [Search.Asks, ne_eq, not_iff_not] at same
      simp only [ownCriteria, outline_idCriterion, same]
  | eventTypes =>
      have lengths := alike.eventTypes
      simp only [Search.typeList] at lengths
      simp only [ownCriteria, outline_eventTypeCriterion, lengths]
  | expression => exact outline_expressionCriterion alike.expression
  | _ =>
      simp only [Search.Asks] at same
      simp only [ownCriteria, outline_timeBound, same]

theorem outline_criteria {search other : Search} (alike : search.Alike other) :
    (criteria search).map outline = (criteria other).map outline := by
  simp only [criteria_eq_flatMap, List.map_flatMap, outline_ownCriteria alike]

/-! ## Quoted texts -/

/-- The texts in quotes, from left to right. A quote that is not closed runs to the end. -/
def quotations : List Char → List String
  | [] => []
  | c :: rest =>
    if c = '\'' then
      String.ofList (rest.takeWhile (· ≠ '\'')) :: quotations (rest.dropWhile (· ≠ '\'')).tail
    else quotations rest
termination_by text => text.length
decreasing_by
  · have shorter := (List.dropWhile_suffix (· ≠ '\'') (l := rest)).length_le
    simp only [List.length_tail, List.length_cons]
    omega
  · simp

theorem quotations_cons {c : Char} (plain : c ≠ '\'') (rest : List Char) :
    quotations (c :: rest) = quotations rest := by
  rw [quotations, if_neg plain]

/-- What has no quote quotes nothing. -/
theorem quotations_append {plain : List Char} (noQuote : ∀ c ∈ plain, c ≠ '\'')
    (rest : List Char) : quotations (plain ++ rest) = quotations rest := by
  induction plain with
  | nil => rfl
  | cons c plain ih =>
      rw [List.cons_append, quotations_cons (noQuote c List.mem_cons_self)]
      exact ih fun d inside => noQuote d (List.mem_cons_of_mem c inside)

theorem quotations_quoted {quoted : List Char} (noQuote : ∀ c ∈ quoted, c ≠ '\'')
    (rest : List Char) :
    quotations ('\'' :: (quoted ++ '\'' :: rest)) = String.ofList quoted :: quotations rest := by
  have plain : ∀ c ∈ quoted, (fun c => decide (c ≠ '\'')) c = true := by simpa using noQuote
  rw [quotations, if_pos rfl, List.takeWhile_append_of_pos plain,
    List.dropWhile_append_of_pos plain]
  simp

theorem quotations_keyword {keyword : List Char} (noQuote : ∀ c ∈ keyword, c ≠ '\'')
    (rest : List Char) : quotations (' ' :: (keyword ++ ' ' :: rest)) = quotations rest := by
  rw [quotations_cons (by decide), quotations_append noQuote, quotations_cons (by decide)]

theorem rootedChar_cases {path : List Segment} {c : Char} (inside : c ∈ '$' :: stepsText path) :
    c = '$' ∨ isPathChar c = true := by
  rcases List.mem_cons.mp inside with rfl | inside
  · exact .inl rfl
  · exact .inr (isPathChar_of_mem_stepsText inside)

/-- The paths of an operand as they are quoted, from left to right. -/
def Operand.paths : Operand → List String
  | column _ => []
  | placeholder _ => []
  | extract source path => source.paths ++ [String.ofList ('$' :: stepsText path)]

/-- The paths of a condition as they are quoted, from left to right. -/
def Condition.paths : Condition → List String
  | compare lhs _ rhs => lhs.paths ++ rhs.paths
  | between subject low high => subject.paths ++ low.paths ++ high.paths
  | oneOf subject choices => subject.paths ++ choices.flatMap Operand.paths
  | both lhs rhs => lhs.paths ++ rhs.paths
  | either lhs rhs => lhs.paths ++ rhs.paths
  | group inner => inner.paths

theorem quotations_operand (operand : Operand)
    (named : ∀ name ∈ operand.placeholders, IsPlaceholderName name) (rest : List Char) :
    quotations (operand.text.toList ++ rest) = operand.paths ++ quotations rest := by
  induction operand generalizing rest with
  | column which =>
      have noQuote : ∀ c ∈ which.name.toList, c ≠ '\'' := by
        cases which <;> simp [Column.name]
      exact quotations_append noQuote rest
  | placeholder name =>
      have parts := (named name (by simp [Operand.placeholders])).2
      have noQuote : ∀ c ∈ name.toList, c ≠ '\'' :=
        fun c inside => Sql.ne_quote_of_isPathChar (by simp [isPathChar, parts c inside])
      rw [Operand.toList_placeholder_append, quotations_cons (by decide),
        quotations_append noQuote]
      rfl
  | extract source path ih =>
      have noQuote : ∀ c ∈ '$' :: stepsText path, c ≠ '\'' := by
        intro c inside
        rcases rootedChar_cases inside with rfl | inside
        · decide
        · exact Sql.ne_quote_of_isPathChar inside
      rw [Operand.toList_extract_append, quotations_append (by simp), quotations_cons (by decide),
        ih named, quotations_cons (by decide), quotations_cons (by decide),
        quotations_quoted noQuote, quotations_cons (by decide), Operand.paths, List.append_assoc]
      rfl

theorem quotations_choices (choices : List Operand)
    (named : ∀ name ∈ choices.flatMap Operand.placeholders, IsPlaceholderName name)
    (rest : List Char) :
    quotations ((", ".intercalate (choices.map Operand.text)).toList ++ rest) =
      choices.flatMap Operand.paths ++ quotations rest := by
  induction choices with
  | nil => simp
  | cons first others ih =>
      simp only [List.flatMap_cons, List.forall_mem_append] at named
      cases others with
      | nil =>
          rw [List.map_singleton, String.intercalate_singleton, List.flatMap_singleton]
          exact quotations_operand first named.1 rest
      | cons second others =>
          rw [Operand.toList_choices_append, quotations_operand first named.1,
            quotations_cons (by decide), quotations_cons (by decide), ih named.2]
          simp only [List.flatMap_cons, List.append_assoc]

theorem quotations_condition (condition : Condition)
    (named : ∀ name ∈ condition.placeholders, IsPlaceholderName name) (rest : List Char) :
    quotations (condition.text.toList ++ rest) = condition.paths ++ quotations rest := by
  induction condition generalizing rest with
  | compare lhs relation rhs =>
      simp only [Condition.placeholders, List.forall_mem_append] at named
      have noQuote : ∀ c ∈ relation.symbol.toList, c ≠ '\'' := by
        cases relation <;> simp [Relation.symbol]
      rw [Condition.toList_compare_append, quotations_operand lhs named.1,
        quotations_keyword noQuote, quotations_operand rhs named.2, Condition.paths,
        List.append_assoc]
  | between subject low high =>
      simp only [Condition.placeholders, List.forall_mem_append] at named
      rw [Condition.toList_between_append, quotations_operand subject named.1.1,
        quotations_keyword (by simp), quotations_operand low named.1.2,
        quotations_keyword (by simp), quotations_operand high named.2, Condition.paths,
        List.append_assoc, List.append_assoc]
  | oneOf subject choices =>
      simp only [Condition.placeholders, List.forall_mem_append] at named
      rw [Condition.toList_oneOf_append, quotations_operand subject named.1,
        quotations_keyword (by simp), quotations_cons (by decide),
        quotations_choices choices named.2, quotations_cons (by decide), Condition.paths,
        List.append_assoc]
  | both lhs rhs ihLeft ihRight =>
      simp only [Condition.placeholders, List.forall_mem_append] at named
      rw [Condition.toList_both_append, ihLeft named.1, quotations_keyword (by simp),
        ihRight named.2, Condition.paths, List.append_assoc]
  | either lhs rhs ihLeft ihRight =>
      simp only [Condition.placeholders, List.forall_mem_append] at named
      rw [Condition.toList_either_append, ihLeft named.1, quotations_keyword (by simp),
        ihRight named.2, Condition.paths, List.append_assoc]
  | group inner ih =>
      rw [Condition.toList_group_append, quotations_cons (by decide), ih named,
        quotations_cons (by decide)]
      rfl

/-! ## The paths of a search -/

/-- The paths that the condition of a leaf quotes: that of the field, and those that take a pair of
bounds apart. -/
def leafPaths (comparison : Comparison) : List String :=
  comparison.field.rooted :: if comparison.operator = .between then ["$[0]", "$[1]"] else []

theorem paths_leafCondition (position : Nat) (comparison : Comparison) :
    (leafCondition position comparison).paths = leafPaths comparison := by
  cases operator : comparison.operator <;>
    simp [leafCondition, leafPaths, operator, Condition.paths, Operand.paths, FieldPath.rooted,
      FieldPath.steps, FieldPath.text, Segment.text, stepsText]

theorem paths_expressionCondition (first : Nat) (expression : Expression) :
    (expressionCondition first expression).paths = expression.leaves.flatMap leafPaths := by
  have ofSide : ∀ (side : Expression) (condition : Condition),
      (sideCondition side condition).paths = condition.paths := by
    intro side condition
    cases side <;> rfl
  induction expression generalizing first with
  | leaf comparison =>
      rw [expressionCondition, paths_leafCondition, Expression.leaves, List.flatMap_singleton]
  | combine lhs combinator rhs ihLeft ihRight =>
      rw [Expression.leaves, List.flatMap_append, ← ihLeft first,
        ← ihRight (first + lhs.leafCount)]
      cases combinator <;> simp only [expressionCondition, joined, Condition.paths, ofSide]

theorem paths_foldl_both (first : Condition) (rest : List Condition) :
    (rest.foldl Condition.both first).paths = first.paths ++ rest.flatMap Condition.paths := by
  induction rest generalizing first with
  | nil => simp
  | cons second rest ih => simp [ih, Condition.paths]

theorem paths_eventTypeCriterion (types : Option (List String)) :
    ((eventTypeCriterion types).flatMap fun own => own.1.paths) = [] := by
  rcases types with _ | _ | ⟨first, rest⟩
  · rfl
  · rfl
  · simp [eventTypeCriterion, Condition.paths, Operand.paths, List.flatMap_map]

theorem paths_ownCriteria (search : Search) (criterion : Criterion) :
    ((ownCriteria search criterion).flatMap fun own => own.1.paths) =
      if criterion = .expression then search.leaves.flatMap leafPaths else [] := by
  cases criterion with
  | id =>
      cases present : search.idFragment with
      | none => simp [ownCriteria, idCriterion, present]
      | some fragment =>
          by_cases blank : fragment = "" <;>
            simp [ownCriteria, idCriterion, present, blank, Condition.paths, Operand.paths]
  | eventTypes => exact paths_eventTypeCriterion search.eventTypes
  | expression =>
      cases expression : search.expression with
      | none => simp [ownCriteria, expressionCriterion, expression, Search.leaves]
      | some tree =>
          simp [ownCriteria, expressionCriterion, expression, Search.leaves, Condition.paths,
            paths_expressionCondition]
  | _ =>
      simp only [ownCriteria, timeBound]
      split <;> simp [Condition.paths, Operand.paths]

theorem paths_criteria (search : Search) :
    ((criteria search).flatMap fun own => own.1.paths) = search.leaves.flatMap leafPaths := by
  rw [criteria_eq_flatMap, List.flatMap_assoc]
  simp only [paths_ownCriteria]
  simp [Criterion.all]

theorem quotations_ofSearch (search : Search) :
    quotations (ofSearch search).text.toList = search.leaves.flatMap leafPaths := by
  rw [← paths_criteria]
  cases found : criteria search with
  | nil => simp [ofSearch, found, Condition.all?, Filter.text, quotations]
  | cons first rest =>
      have named : ∀ name ∈ ((rest.map Prod.fst).foldl Condition.both first.1).placeholders,
          IsPlaceholderName name := by
        intro name inside
        have among : name ∈ (criteria search).flatMap fun own => own.1.placeholders := by
          rwa [found, List.flatMap_cons, ← List.flatMap_map Prod.fst, ← placeholders_foldl_both]
        exact isPlaceholderName_of_mem_criteria among
      have scanned := quotations_condition _ named []
      rw [List.append_nil, quotations, List.append_nil] at scanned
      rw [Filter.text, condition_ofSearch found]
      simp only [scanned, paths_foldl_both, List.flatMap_map, List.flatMap_cons]

theorem rootedChar_of_mem_leafPaths {comparison : Comparison} :
    ∀ path ∈ leafPaths comparison, ∀ c ∈ path.toList, c = '$' ∨ isPathChar c = true := by
  intro path inside c among
  rcases List.mem_cons.mp inside with rfl | inside
  · have steps : comparison.field.rooted.toList = '$' :: stepsText comparison.field.steps := by
      simp [FieldPath.rooted, FieldPath.steps, FieldPath.text, stepsText, Segment.text]
    rw [steps] at among
    exact rootedChar_cases among
  · split at inside
    · simp only [List.mem_cons, List.not_mem_nil, or_false] at inside
      rcases inside with rfl | rfl <;>
        simp only [String.reduceToList, List.mem_cons, List.not_mem_nil, or_false] at among <;>
        rcases among with rfl | rfl | rfl | rfl <;> decide
    · cases inside

/-- Searches of the same form have the same text and the same names, whatever their values are. The
texts in quotes are the paths of the fields and those of the two bounds, and they consist of dollar
signs and of the characters of paths. -/
theorem text_noninterference (search : Search) :
    (∀ other : Search, search.Alike other → (ofSearch search).text = (ofSearch other).text ∧
        (ofSearch search).names = (ofSearch other).names) ∧
      quotations (ofSearch search).text.toList = search.leaves.flatMap leafPaths ∧
      (∀ path ∈ quotations (ofSearch search).text.toList, ∀ c ∈ path.toList,
        c = '$' ∨ isPathChar c = true) := by
  refine ⟨fun other alike => text_ofSearch_congr (outline_criteria alike),
    quotations_ofSearch search, ?_⟩
  intro path inside c among
  rw [quotations_ofSearch] at inside
  rcases List.mem_flatMap.mp inside with ⟨leaf, -, inside⟩
  exact rootedChar_of_mem_leafPaths path inside c among

/-! ## An example -/

/-- A search for an amount, for ids with a fragment and for one event type. -/
def amountSearch (fragment eventType : String) (amount : Json) : Search where
  idFragment := some fragment
  eventTypes := some [eventType]
  expression := some (.leaf ⟨⟨⟨"amount".toList, rfl⟩, []⟩, .equal, amount⟩)

/-- Quotes and keywords among the values leave the text as it is. -/
theorem text_amountSearch :
    (amountSearch "tx" "payment" (.number (.integer 5))).Alike
        (amountSearch "' OR '1' = '1" "x'); DROP TABLE transactionRecord; --" (.string "' OR 1")) ∧
      (ofSearch (amountSearch "tx" "payment" (.number (.integer 5)))).text =
        (ofSearch (amountSearch "' OR '1' = '1" "x'); DROP TABLE transactionRecord; --"
          (.string "' OR 1"))).text := by
  have alike : (amountSearch "tx" "payment" (.number (.integer 5))).Alike
      (amountSearch "' OR '1' = '1" "x'); DROP TABLE transactionRecord; --" (.string "' OR 1")) := by
    refine ⟨?_, rfl, .some (.leaf rfl rfl)⟩
    intro criterion
    cases criterion <;> simp [amountSearch, Search.Asks, Search.typeList]
  exact ⟨alike, ((text_noninterference _).1 _ alike).1⟩

end Filter

end TransactionLedger
