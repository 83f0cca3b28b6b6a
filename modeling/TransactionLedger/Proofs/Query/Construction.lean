import TransactionLedger.Filter.Basic
import TransactionLedger.Proofs.Query.Checking

/-!
# Building expressions

An expression can also be built call by call from the leaves upwards, where each leaf is checked on
its own. A draft whose operators are all known spells such calls. Checking the draft and making the
calls come to the same expression or fail for the same reason; only the text shown by the error
differs, for a call shows its own leaf and a draft shows itself.
-/

namespace TransactionLedger

variable {ε δ α β : Type}

theorem mapError_bind (change : ε → δ) (outcome : Except ε α) (next : α → Except ε β) :
    (outcome >>= next).mapError change =
      outcome.mapError change >>= fun value => (next value).mapError change := by
  cases outcome <;> rfl

theorem mapError_map (change : ε → δ) (result : α → β) (outcome : Except ε α) :
    (outcome.map result).mapError change = (outcome.mapError change).map result := by
  cases outcome <;> rfl

namespace Query

/-- The calls that build an expression; the operators are known, the rest is as given. -/
inductive Construction
  | compare (field : String) (operator : Operator) (value : Json)
  | combine (lhs : Construction) (combinator : Combinator) (rhs : Construction)

/-- A call that makes a leaf. -/
structure LeafCall where
  field : String
  operator : Operator
  value : Json

/-- What a call shows in its error. -/
def LeafCall.text (call : LeafCall) : String :=
  call.field ++ " " ++ call.operator.symbol ++ " " ++ call.value.render

namespace Construction

/-- Makes the calls, the left side before the right side and both before they are joined. -/
def build : Construction → Except QueryError Expression
  | compare field operator value => Expression.compare field operator value
  | combine lhs combinator rhs => do
    let left ← lhs.build
    let right ← rhs.build
    return .combine left combinator right

/-- The calls that make leaves, from left to right. -/
def leafCalls : Construction → List LeafCall
  | compare field operator value => [⟨field, operator, value⟩]
  | combine lhs _ rhs => lhs.leafCalls ++ rhs.leafCalls

end Construction

/-! ## Leaves -/

section Leaves

variable {field text other : String} {operator : Operator} {value : Json}

/-- What is wrong with a comparison does not depend on the text that is shown. -/
theorem Comparison.check_withExpression :
    (check field operator value other).mapError (·.withExpression text) =
      check field operator value text := by
  unfold check
  cases FieldPath.parse? field with
  | none => rfl
  | some path =>
      cases operator.accepts value with
      | true => rfl
      | false => rfl

theorem Expression.compare_withExpression :
    (compare field operator value).mapError (·.withExpression text) =
      (Comparison.check field operator value text).map leaf := by
  rw [compare, mapError_map, Comparison.check_withExpression]

end Leaves

namespace Draft

/-- The operator of a draft is known, whatever its sides hold. -/
inductive Named : Draft → Prop
  | combination {lhs rhs : Draft} {operator : String} {combinator : Combinator}
      (known : combinator.IsNamed operator) : Named (.combination lhs operator rhs)
  | comparison {field name : String} {value : Json} {operator : Operator}
      (known : operator.IsNamed name) : Named (.comparison field name value)

/-- The draft and the calls form the same tree, and each draft names the operator of its call. -/
inductive Spells : Draft → Construction → Prop
  | combination {lhs rhs : Draft} {operator : String} {left right : Construction}
      {combinator : Combinator} (known : combinator.IsNamed operator) (lhsSpells : Spells lhs left)
      (rhsSpells : Spells rhs right) :
      Spells (.combination lhs operator rhs) (.combine left combinator right)
  | comparison {field name : String} {value : Json} {operator : Operator}
      (known : operator.IsNamed name) :
      Spells (.comparison field name value) (.compare field operator value)

/-- A draft spells calls if all its operators are known. -/
theorem exists_spells_iff {draft : Draft} :
    (∃ construction, draft.Spells construction) ↔ ∀ node ∈ draft.nodes, node.Named := by
  induction draft with
  | combination lhs operator rhs ihLhs ihRhs =>
      simp only [nodes, List.forall_mem_cons, List.forall_mem_append, ← ihLhs, ← ihRhs]
      constructor
      · rintro ⟨_, known, lhsSpells, rhsSpells⟩
        exact ⟨.combination known, ⟨_, lhsSpells⟩, ⟨_, rhsSpells⟩⟩
      · rintro ⟨⟨known⟩, ⟨left, lhsSpells⟩, ⟨right, rhsSpells⟩⟩
        exact ⟨_, .combination known lhsSpells rhsSpells⟩
  | comparison field operator value =>
      simp only [nodes, List.forall_mem_singleton]
      constructor
      · rintro ⟨construction, spells⟩
        cases spells with
        | comparison known => exact .comparison known
      · intro named
        cases named with
        | comparison known => exact ⟨_, .comparison known⟩

variable {draft : Draft} {construction : Construction}

/-- Checking a draft that spells some calls is making them, but for the text of the error. -/
theorem Spells.checkWithin_eq (spells : draft.Spells construction) (text : String) :
    draft.checkWithin text = construction.build.mapError (·.withExpression text) := by
  induction spells with
  | combination known _ _ ihLhs ihRhs =>
      have named := Combinator.ofName?_eq_some_iff.mpr known
      simp only [checkWithin, named, ihLhs, ihRhs, Construction.build, mapError_bind]
      rfl
  | comparison known =>
      have named := Operator.ofName?_eq_some_iff.mpr known
      simp only [checkWithin, named, Construction.build, Expression.compare_withExpression]

end Draft

/-- A call shows its own leaf. -/
theorem Construction.exists_leafCall {construction : Construction} {error : QueryError}
    (failed : construction.build = .error error) :
    ∃ call ∈ construction.leafCalls, error.withExpression call.text = error := by
  induction construction with
  | compare field operator value =>
      refine ⟨⟨field, operator, value⟩, List.mem_singleton_self _, ?_⟩
      rw [build, Expression.compare, map_eq_error_iff, Comparison.check_eq_error_iff] at failed
      rcases failed with ⟨-, rfl⟩ | ⟨-, -, rfl⟩
      · rfl
      · rfl
  | combine lhs combinator rhs ihLhs ihRhs =>
      simp only [build, bind_eq_error_iff, pure_eq_ok, reduceCtorEq, and_false, exists_false,
        or_false] at failed
      rcases failed with lhsFailed | ⟨_, -, rhsFailed⟩
      · rcases ihLhs lhsFailed with ⟨call, inside, shown⟩
        exact ⟨call, List.mem_append_left _ inside, shown⟩
      · rcases ihRhs rhsFailed with ⟨call, inside, shown⟩
        exact ⟨call, List.mem_append_right _ inside, shown⟩

namespace Draft

/-- If all operators of a draft are known, it spells calls, and these build what the draft is
checked to, with the same filter. Where one of the two fails, so does the other, with the same error
but for the expression that it shows: the draft as a whole, or the leaf of a call. -/
theorem check_as_built {draft : Draft} (named : ∀ node ∈ draft.nodes, node.Named) :
    (∃ construction, draft.Spells construction) ∧
      ∀ construction, draft.Spells construction →
        (∀ expression, draft.check = .ok expression ↔ construction.build = .ok expression) ∧
        (∀ filter, draft.check.map Filter.ofExpression = .ok filter ↔
          construction.build.map Filter.ofExpression = .ok filter) ∧
        (∀ error, draft.check = .error error ↔
          ∃ own, construction.build = .error own ∧ own.withExpression draft.render = error) ∧
        ∀ own, construction.build = .error own →
          ∃ call ∈ construction.leafCalls, own.withExpression call.text = own := by
  refine ⟨exists_spells_iff.mpr named, fun construction spells => ?_⟩
  have same := spells.checkWithin_eq draft.render
  refine ⟨?_, ?_, ?_, fun own => Construction.exists_leafCall⟩
  · intro expression
    rw [check, same, mapError_eq_ok_iff]
  · intro filter
    simp only [check, same, map_eq_ok_iff, mapError_eq_ok_iff]
  · intro error
    rw [check, same, mapError_eq_error_iff]

/-- Both sides have a fault, and the field of the left one comes first. -/
def faultySides : Draft :=
  combination (comparison "a b" " = " .null) "and" (comparison "$.c" "Between" (.bool true))

theorem check_as_built_faultySides :
    (∀ node ∈ faultySides.nodes, node.Named) ∧
      ∃ construction own, faultySides.Spells construction ∧ construction.build = .error own ∧
        faultySides.check = .error (own.withExpression faultySides.render) := by
  have named : ∀ node ∈ faultySides.nodes, node.Named := by
    have conjunction : Combinator.conjunction.IsNamed "and" := rfl
    have equal : Operator.equal.IsNamed " = " := rfl
    have between : Operator.between.IsNamed "Between" := rfl
    simp only [faultySides, nodes, List.cons_append, List.nil_append, List.forall_mem_cons]
    refine ⟨.combination conjunction, .comparison equal, .comparison between, ?_⟩
    exact fun node inside => absurd inside List.not_mem_nil
  rcases check_as_built named with ⟨⟨construction, spells⟩, agree⟩
  rcases agree construction spells with ⟨-, -, faults, -⟩
  have refused : faultySides.check = .error (.invalidField "a b" faultySides.render) := rfl
  rcases (faults _).mp refused with ⟨own, failed, shown⟩
  exact ⟨named, construction, own, spells, failed, refused.trans (congrArg _ shown.symm)⟩

end Draft

end Query

end TransactionLedger
