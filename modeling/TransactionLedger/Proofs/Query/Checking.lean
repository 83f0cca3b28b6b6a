import TransactionLedger.Query.Draft
import TransactionLedger.Proofs.Outcome
import TransactionLedger.Proofs.Query.FieldPath

/-!
# Checking a draft

What a draft has to satisfy is said for each of its nodes alone: the operator is known, and in a
comparison the field is a path and the value has the shape that the operator needs. A draft of sound
nodes states one expression of the same shape. Any other draft is refused for its first unsound
node, where a node comes before its left side and that before its right side.
-/

namespace TransactionLedger.Query

/-! ## Names -/

/-- A list of everything is searched for a symbol, and symbols are distinct. -/
theorem find?_symbol_eq_some_iff {ι : Type} {all : List ι} {symbol : ι → String}
    (complete : ∀ item, item ∈ all) (distinct : symbol.Injective) {name : List Char} {item : ι} :
    all.find? (fun item => name == (symbol item).toList) = some item ↔
      name = (symbol item).toList := by
  constructor
  · intro found
    simpa using List.find?_some found
  · rintro rfl
    cases found : all.find? fun other => (symbol item).toList == (symbol other).toList with
    | none =>
        have missed := List.find?_eq_none.mp found item (complete item)
        simp at missed
    | some other =>
        have same : (symbol item).toList = (symbol other).toList := by
          simpa using List.find?_some found
        rw [distinct (String.toList_injective same)]

namespace Operator

/-- The name stands for the operator: it is the symbol, with blanks around it and in any case. -/
def IsNamed (operator : Operator) (name : String) : Prop :=
  canonicalName name = operator.symbol.toList

theorem mem_all (operator : Operator) : operator ∈ all := by
  cases operator <;> decide

theorem symbol_injective : symbol.Injective := by
  intro first second same
  cases first <;> cases second <;> simp_all [symbol]

theorem ofName?_eq_some_iff {name : String} {operator : Operator} :
    ofName? name = some operator ↔ operator.IsNamed name :=
  find?_symbol_eq_some_iff mem_all symbol_injective

theorem ofName?_eq_none_iff {name : String} :
    ofName? name = none ↔ ∀ operator : Operator, ¬ operator.IsNamed name := by
  simp only [Option.eq_none_iff_forall_ne_some, ne_eq, ofName?_eq_some_iff]

/-- The value has the shape that the operator needs. -/
inductive Suits : Operator → Json → Prop
  | equal {value : Json} (scalar : value.isScalar = true) : Suits .equal value
  | greater {value : Json} (scalar : value.isScalar = true) : Suits .greater value
  | less {value : Json} (scalar : value.isScalar = true) : Suits .less value
  | like (pattern : String) : Suits .like (.string pattern)
  | between {low high : Json} (lowScalar : low.isScalar = true) (highScalar : high.isScalar = true) :
      Suits .between (.array [low, high])

theorem accepts_iff {operator : Operator} {value : Json} :
    operator.accepts value = true ↔ operator.Suits value := by
  constructor
  · intro accepted
    unfold accepts at accepted
    split at accepted
    · rw [Bool.and_eq_true] at accepted
      exact .between accepted.1 accepted.2
    · contradiction
    · exact .like _
    · contradiction
    · cases operator with
      | equal => exact .equal accepted
      | greater => exact .greater accepted
      | less => exact .less accepted
      | like => contradiction
      | between => contradiction
  · rintro (scalar | scalar | scalar | pattern | ⟨lowScalar, highScalar⟩)
    · exact scalar
    · exact scalar
    · exact scalar
    · rfl
    · rw [accepts, lowScalar, highScalar]
      rfl

end Operator

namespace Combinator

/-- The name stands for the combinator: it is the symbol, with blanks around it and in any case. -/
def IsNamed (combinator : Combinator) (name : String) : Prop :=
  canonicalName name = combinator.symbol.toList

theorem mem_all (combinator : Combinator) : combinator ∈ all := by
  cases combinator <;> decide

theorem symbol_injective : symbol.Injective := by
  intro first second same
  cases first <;> cases second <;> simp_all [symbol]

theorem ofName?_eq_some_iff {name : String} {combinator : Combinator} :
    ofName? name = some combinator ↔ combinator.IsNamed name :=
  find?_symbol_eq_some_iff mem_all symbol_injective

theorem ofName?_eq_none_iff {name : String} :
    ofName? name = none ↔ ∀ combinator : Combinator, ¬ combinator.IsNamed name := by
  simp only [Option.eq_none_iff_forall_ne_some, ne_eq, ofName?_eq_some_iff]

end Combinator

/-! ## Comparisons -/

namespace FieldPath

/-- The path is what the name says, but for one leading `$.`. -/
def IsNamed (path : FieldPath) (name : String) : Prop :=
  withoutRoot name.toList = path.text

end FieldPath

namespace Comparison

variable {field expression : String} {operator : Operator} {value : Json}

theorem check_eq_ok_iff {comparison : Comparison} :
    check field operator value expression = .ok comparison ↔
      ∃ path : FieldPath, path.IsNamed field ∧ operator.Suits value ∧
        comparison = ⟨path, operator, value⟩ := by
  unfold check
  simp only [FieldPath.IsNamed, ← FieldPath.parse?_eq_some_iff, ← Operator.accepts_iff]
  split
  · rename_i unread
    simp [unread]
  · rename_i path read
    split
    · rename_i accepted
      simp [read, accepted, eq_comm]
    · rename_i refused
      simp [refused]

theorem check_eq_error_iff {error : QueryError} :
    check field operator value expression = .error error ↔
      (∀ path : FieldPath, ¬ path.IsNamed field) ∧ error = .invalidField field expression ∨
      (∃ path : FieldPath, path.IsNamed field) ∧ ¬ operator.Suits value ∧
        error = .invalidValue operator.symbol operator.requirement expression := by
  unfold check
  simp only [FieldPath.IsNamed, ← FieldPath.parse?_eq_some_iff, ← Operator.accepts_iff]
  split
  · rename_i unread
    simp [unread, eq_comm (a := error)]
  · rename_i path read
    split
    · rename_i accepted
      simp [read, accepted]
    · rename_i refused
      simp [read, refused, eq_comm (a := error)]

end Comparison

/-! ## Drafts -/

namespace Draft

/-- Every part of a draft, each in front of its left side and that in front of its right side. -/
def nodes : Draft → List Draft
  | combination lhs operator rhs => combination lhs operator rhs :: (lhs.nodes ++ rhs.nodes)
  | comparison field operator value => [comparison field operator value]

/-- Nothing is wrong with a draft but for what its sides may hold. -/
inductive Sound : Draft → Prop
  | combination {lhs rhs : Draft} {operator : String} {combinator : Combinator}
      (known : combinator.IsNamed operator) : Sound (.combination lhs operator rhs)
  | comparison {field name : String} {value : Json} {path : FieldPath} {operator : Operator}
      (known : operator.IsNamed name) (read : path.IsNamed field) (suits : operator.Suits value) :
      Sound (.comparison field name value)

/-- What is wrong with a draft, whatever its sides hold. The operator is looked at before the field,
and the field before the value; errors show the given expression. -/
inductive Fault (expression : String) : Draft → QueryError → Prop
  | combinator {lhs rhs : Draft} {operator : String}
      (unknown : ∀ combinator : Combinator, ¬ combinator.IsNamed operator) :
      Fault expression (.combination lhs operator rhs) (.unsupportedOperator operator expression)
  | operator {field name : String} {value : Json}
      (unknown : ∀ operator : Operator, ¬ operator.IsNamed name) :
      Fault expression (.comparison field name value) (.unsupportedOperator name expression)
  | field {field name : String} {value : Json} {operator : Operator}
      (known : operator.IsNamed name) (unread : ∀ path : FieldPath, ¬ path.IsNamed field) :
      Fault expression (.comparison field name value) (.invalidField field expression)
  | value {field name : String} {value : Json} {operator : Operator} {path : FieldPath}
      (known : operator.IsNamed name) (read : path.IsNamed field)
      (unsuited : ¬ operator.Suits value) :
      Fault expression (.comparison field name value)
        (.invalidValue operator.symbol operator.requirement expression)

/-- The draft and the expression have the same shape, and what the draft names is what stands in the
same place of the expression. -/
inductive States : Draft → Expression → Prop
  | combination {lhs rhs : Draft} {operator : String} {left right : Expression}
      {combinator : Combinator} (known : combinator.IsNamed operator) (lhsStates : States lhs left)
      (rhsStates : States rhs right) :
      States (.combination lhs operator rhs) (.combine left combinator right)
  | comparison {field name : String} {value : Json} {path : FieldPath} {operator : Operator}
      (known : operator.IsNamed name) (read : path.IsNamed field) (suits : operator.Suits value) :
      States (.comparison field name value) (.leaf ⟨path, operator, value⟩)

/-- A draft states an expression if every part of it is sound. -/
theorem exists_states_iff {draft : Draft} :
    (∃ expression, draft.States expression) ↔ ∀ node ∈ draft.nodes, node.Sound := by
  induction draft with
  | combination lhs operator rhs ihLhs ihRhs =>
      simp only [nodes, List.forall_mem_cons, List.forall_mem_append, ← ihLhs, ← ihRhs]
      constructor
      · rintro ⟨_, known, lhsStates, rhsStates⟩
        exact ⟨.combination known, ⟨_, lhsStates⟩, ⟨_, rhsStates⟩⟩
      · rintro ⟨⟨known⟩, ⟨left, lhsStates⟩, ⟨right, rhsStates⟩⟩
        exact ⟨_, .combination known lhsStates rhsStates⟩
  | comparison field operator value =>
      simp only [nodes, List.forall_mem_singleton]
      constructor
      · rintro ⟨_, - | ⟨known, read, suits⟩⟩
        exact .comparison known read suits
      · rintro (- | ⟨known, read, suits⟩)
        exact ⟨_, .comparison known read suits⟩

variable {text : String} {draft : Draft}

theorem checkWithin_eq_ok_iff {expression : Expression} :
    draft.checkWithin text = .ok expression ↔ draft.States expression := by
  induction draft generalizing expression with
  | combination lhs operator rhs ihLhs ihRhs =>
      constructor
      · intro checked
        unfold checkWithin at checked
        split at checked
        · contradiction
        · rename_i combinator named
          simp only [bind_eq_ok_iff, ihLhs, ihRhs, pure_eq_ok, Except.ok.injEq] at checked
          rcases checked with ⟨left, lhsStates, right, rhsStates, rfl⟩
          exact .combination (Combinator.ofName?_eq_some_iff.mp named) lhsStates rhsStates
      · rintro (⟨known, lhsStates, rhsStates⟩)
        rw [checkWithin, Combinator.ofName?_eq_some_iff.mpr known, ihLhs.mpr lhsStates,
          ihRhs.mpr rhsStates]
        rfl
  | comparison field operator value =>
      constructor
      · intro checked
        unfold checkWithin at checked
        split at checked
        · contradiction
        · rename_i known named
          simp only [map_eq_ok_iff, Comparison.check_eq_ok_iff] at checked
          rcases checked with ⟨_, ⟨path, read, suits, rfl⟩, rfl⟩
          exact .comparison (Operator.ofName?_eq_some_iff.mp named) read suits
      · rintro (- | ⟨known, read, suits⟩)
        rw [checkWithin, Operator.ofName?_eq_some_iff.mpr known]
        simp only [map_eq_ok_iff, Comparison.check_eq_ok_iff]
        exact ⟨_, ⟨_, read, suits, rfl⟩, rfl⟩

theorem checkWithin_eq_error_iff {error : QueryError} :
    draft.checkWithin text = .error error ↔ FirstFault Sound (Fault text) draft.nodes error := by
  induction draft with
  | combination lhs operator rhs ihLhs ihRhs =>
      rw [nodes, firstFault_cons, firstFault_append, ← ihLhs, ← ihRhs, ← exists_states_iff]
      constructor
      · intro failed
        unfold checkWithin at failed
        split at failed
        · rename_i unknown
          rcases Except.error.inj failed with rfl
          exact .inl (.combinator (Combinator.ofName?_eq_none_iff.mp unknown))
        · rename_i combinator named
          refine .inr ⟨.combination (Combinator.ofName?_eq_some_iff.mp named), ?_⟩
          simp only [bind_eq_error_iff, checkWithin_eq_ok_iff, pure_eq_ok, reduceCtorEq, and_false,
            exists_false, or_false] at failed
          -- The right side is looked at only behind a left side that states an expression.
          rcases failed with lhsFailed | ⟨left, lhsStates, rhsFailed⟩
          · exact .inl lhsFailed
          · exact .inr ⟨⟨left, lhsStates⟩, rhsFailed⟩
      · rintro (fault | ⟨⟨known⟩, failed⟩)
        · cases fault with
          | combinator unknown => rw [checkWithin, Combinator.ofName?_eq_none_iff.mpr unknown]
        · rw [checkWithin, Combinator.ofName?_eq_some_iff.mpr known]
          simp only [bind_eq_error_iff, checkWithin_eq_ok_iff]
          rcases failed with lhsFailed | ⟨⟨left, lhsStates⟩, rhsFailed⟩
          · exact .inl lhsFailed
          · exact .inr ⟨left, lhsStates, .inl rhsFailed⟩
  | comparison field operator value =>
      rw [nodes, firstFault_singleton]
      constructor
      · intro failed
        unfold checkWithin at failed
        split at failed
        · rename_i unknown
          rcases Except.error.inj failed with rfl
          exact .operator (Operator.ofName?_eq_none_iff.mp unknown)
        · rename_i known named
          rw [Operator.ofName?_eq_some_iff] at named
          rw [map_eq_error_iff, Comparison.check_eq_error_iff] at failed
          rcases failed with ⟨unread, rfl⟩ | ⟨⟨path, read⟩, unsuited, rfl⟩
          · exact .field named unread
          · exact .value named read unsuited
      · intro fault
        cases fault with
        | operator unknown => rw [checkWithin, Operator.ofName?_eq_none_iff.mpr unknown]
        | field known unread =>
            rw [checkWithin, Operator.ofName?_eq_some_iff.mpr known]
            exact map_eq_error_iff.mpr (Comparison.check_eq_error_iff.mpr (.inl ⟨unread, rfl⟩))
        | value known read unsuited =>
            rw [checkWithin, Operator.ofName?_eq_some_iff.mpr known]
            exact map_eq_error_iff.mpr
              (Comparison.check_eq_error_iff.mpr (.inr ⟨⟨_, read⟩, unsuited, rfl⟩))

/-- A draft is accepted if every part of it is sound, and then checked to the expression that it
states. Any other draft is refused for its first fault, and the error shows the JSON text of the
whole draft however deep the fault lies. -/
theorem check_outcome (draft : Draft) :
    ((∃ expression, draft.check = .ok expression) ↔ ∀ node ∈ draft.nodes, node.Sound) ∧
      (∀ expression, draft.check = .ok expression ↔ draft.States expression) ∧
      ∀ error, draft.check = .error error ↔
        FirstFault Sound (Fault draft.toJson.render) draft.nodes error := by
  refine ⟨?_, fun expression => checkWithin_eq_ok_iff, fun error => checkWithin_eq_error_iff⟩
  simp only [check, checkWithin_eq_ok_iff, exists_states_iff]

/-- The right side has a fault on a higher level, but the left side comes first. -/
example :
    (combination (combination (comparison "a" "=" (.bool true)) "or" (comparison "b" "like" .null))
      "AND" (comparison "c" "<>" (.string "x"))).checkWithin "all" =
      .error (.invalidValue "LIKE" "expected a string pattern" "all") := by
  cbv

end Draft

end TransactionLedger.Query
