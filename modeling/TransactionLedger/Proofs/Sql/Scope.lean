import Std.Data.TreeMap.Lemmas
import TransactionLedger.Proofs.Filter.Placeholder
import TransactionLedger.Sql.Evaluation

/-!
# What a condition depends on

A condition depends on the columns of the row and on the values of its own placeholders. Under
distinct names, a placeholder stands for the value that the filter lists under its name.
-/

namespace TransactionLedger

open TransactionLedger.Filter Sql

/-- The value that some bound values give to a name; null if it is not among them. -/
def Filter.boundValue (values : List (String × BindValue)) (name : String) : Value :=
  ((values.lookup name).map Value.ofBind).getD .null

theorem Filter.placeholder_bindings {filter : Filter} (distinct : filter.names.Nodup)
    (row : Column → Value) (name : String) :
    (Scope.mk row filter.bindings).placeholder name = boundValue filter.values name := by
  have apart : (filter.values.map fun value => (value.1, Value.ofBind value.2)).Pairwise
      fun first second => ¬ compare first.1 second.1 = .eq := by
    rw [List.pairwise_map]
    exact (List.pairwise_map.mp distinct).imp fun differs same =>
      differs (Std.LawfulEqCmp.eq_of_compare same)
  simp only [Scope.placeholder, bindings, boundValue]
  cases found : filter.values.lookup name with
  | none =>
      apply Std.TreeMap.getD_ofList_of_contains_eq_false
      rw [List.lookup_eq_none_iff] at found
      simpa using fun value inside => found (name, value) inside
  | some value =>
      rcases List.lookup_eq_some_iff.mp found with ⟨front, back, split, -⟩
      apply Std.TreeMap.getD_ofList_of_mem Std.ReflCmp.compare_self apart
      simp [split]

theorem Filter.passes_of_accepts {filter : Filter} {row : Column → Value} {holds : Bool}
    (accepted : filter.accepts row = .ok holds) : filter.passes row = holds := by
  rw [passes, accepted]

namespace Filter

variable {scope other : Scope}

theorem Operand.evaluate_congr {operand : Operand} (columns : scope.column = other.column)
    (same : ∀ name ∈ operand.placeholders, scope.placeholder name = other.placeholder name) :
    operand.evaluate scope = operand.evaluate other := by
  induction operand with
  | column which => simp only [evaluate, columns]
  | placeholder name => simp only [evaluate, same name (by simp [placeholders])]
  | extract source path ih => simp only [evaluate, ih same]

theorem isOneOf_congr {value : Value} {choices : List Operand}
    (columns : scope.column = other.column)
    (same : ∀ name ∈ choices.flatMap Operand.placeholders,
      scope.placeholder name = other.placeholder name) :
    isOneOf scope value choices = isOneOf other value choices := by
  induction choices with
  | nil => rfl
  | cons choice rest ih =>
      simp only [List.flatMap_cons, List.forall_mem_append] at same
      simp only [isOneOf, Operand.evaluate_congr columns same.1, ih same.2]

theorem Condition.holds_congr {condition : Condition} (columns : scope.column = other.column)
    (same : ∀ name ∈ condition.placeholders, scope.placeholder name = other.placeholder name) :
    condition.holds scope = condition.holds other := by
  induction condition with
  | compare lhs relation rhs =>
      simp only [placeholders, List.forall_mem_append] at same
      simp only [holds, Operand.evaluate_congr columns same.1,
        Operand.evaluate_congr columns same.2]
  | between subject low high =>
      simp only [placeholders, List.forall_mem_append] at same
      simp only [holds, Operand.evaluate_congr columns same.1.1,
        Operand.evaluate_congr columns same.1.2, Operand.evaluate_congr columns same.2]
  | oneOf subject choices =>
      simp only [placeholders, List.forall_mem_append] at same
      simp only [holds, Operand.evaluate_congr columns same.1, isOneOf_congr columns same.2]
  | both lhs rhs ihLeft ihRight =>
      simp only [placeholders, List.forall_mem_append] at same
      simp only [holds, ihLeft same.1, ihRight same.2]
  | either lhs rhs ihLeft ihRight =>
      simp only [placeholders, List.forall_mem_append] at same
      simp only [holds, ihLeft same.1, ihRight same.2]
  | group inner ih => exact ih same

end Filter

end TransactionLedger
