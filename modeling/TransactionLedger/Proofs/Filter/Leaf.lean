import TransactionLedger.Proofs.Filter.Compilation
import TransactionLedger.Proofs.Sql.Scalar

/-!
# What a leaf selects

A leaf other than a pattern sets bounds to a part of the payload: the ways in which the part may
compare with a value. It selects the payloads with a part, as the database follows the path, that
keeps the bounds under the order of the database.
-/

namespace TransactionLedger

open TransactionLedger.Filter Query Sql

namespace Query

/-- A bound on a part of a payload: a value, and the ways in which the part may compare with it. -/
structure Bound where
  value : Json
  accepted : List Ordering

/-- The part keeps the bound under an order of values. -/
def Bound.Admits (order? : Json → Json → Option Ordering) (bound : Bound) (part : Json) : Prop :=
  ∃ ordering ∈ bound.accepted, order? part bound.value = some ordering

instance (order? : Json → Json → Option Ordering) (bound : Bound) (part : Json) :
    Decidable (bound.Admits order? part) :=
  inferInstanceAs (Decidable (∃ ordering ∈ bound.accepted, _))

namespace Comparison

/-- The bounds that a comparison sets; a pattern sets none. -/
def bounds (comparison : Comparison) : List Bound :=
  match comparison.operator, comparison.value with
  | .equal, value => [⟨value, [.eq]⟩]
  | .greater, value => [⟨value, [.gt]⟩]
  | .less, value => [⟨value, [.lt]⟩]
  | .between, .array [low, high] => [⟨low, [.gt, .eq]⟩, ⟨high, [.lt, .eq]⟩]
  | _, _ => []

/-- The comparison sets bounds, and their values are texts, booleans or integers of 64 bits with a
sign. -/
structure IsSimple (comparison : Comparison) : Prop where
  bounded : comparison.bounds ≠ []
  simple : ∀ bound ∈ comparison.bounds, bound.value.IsSimple

/-- In a way of following paths, the field leads to a part of the payload that keeps the bounds
under an order of values. -/
def Finds (follow? : List Segment → Json → Option Json) (order? : Json → Json → Option Ordering)
    (comparison : Comparison) (payload : Json) : Prop :=
  ∃ part ∈ follow? comparison.field.steps payload,
    ∀ bound ∈ comparison.bounds, bound.Admits order? part

instance (follow? : List Segment → Json → Option Json) (order? : Json → Json → Option Ordering)
    (comparison : Comparison) (payload : Json) :
    Decidable (comparison.Finds follow? order? payload) :=
  inferInstanceAs (Decidable (∃ part ∈ follow? comparison.field.steps payload, _))

end Comparison

end Query

namespace Filter

theorem Relation.isTrue_orderTruth_iff {accepted : List Ordering} {lhs rhs : Value} :
    (Relation.orderTruth accepted lhs rhs).isTrue = true ↔
      ∃ ordering ∈ accepted, lhs.order? rhs = some ordering := by
  simp only [Relation.orderTruth]
  cases lhs.order? rhs <;> simp [Truth.isTrue]

/-- Nothing compares with null. -/
theorem Relation.isTrue_orderTruth_null (accepted : List Ordering) (rhs : Value) :
    (Relation.orderTruth accepted .null rhs).isTrue = false := by
  cases rhs <;> rfl

end Filter

namespace Query

/-- The value of the part of a payload that a path leads to in the database; null if there is
none. -/
def partValue (path : List Segment) (payload : Json) : Value :=
  (payload.storedFollow? path).elim .null Value.ofPart

theorem extracted_render {room : Nat} {payload : Json} (wellFormed : payload.WellFormed room)
    (shallow : room ≤ Payload.depthLimit) (path : List Segment) :
    extracted path (.text payload.render) = .ok (partValue path payload) := by
  rw [extracted, part?_render wellFormed shallow]
  rfl

/-- The two bounds of `BETWEEN`, which are bound as one text, are taken out of it again. -/
theorem extracted_pair {low high : Json} (lowSimple : low.IsSimple) (highSimple : high.IsSimple) :
    extracted [.element ⟨['0'], rfl⟩] (.ofBind (.ofJson (.array [low, high]))) =
        .ok (Value.ofPart low) ∧
      extracted [.element ⟨['1'], rfl⟩] (.ofBind (.ofJson (.array [low, high]))) =
        .ok (Value.ofPart high) := by
  have wellFormed : (Json.array [low, high]).WellFormed 1 :=
    ⟨Nat.one_pos, Json.wellFormed_of_isSimple lowSimple 0,
      Json.wellFormed_of_isSimple highSimple 0, trivial⟩
  constructor
  · exact extracted_render wellFormed (by decide) _
  · exact extracted_render wellFormed (by decide) _

theorem isTrue_orderTruth_partValue {accepted : List Ordering} {path : List Segment}
    {payload value : Json} :
    (Relation.orderTruth accepted (partValue path payload) (Value.ofPart value)).isTrue = true ↔
      ∃ part ∈ payload.storedFollow? path,
        Bound.Admits Json.storedOrder? ⟨value, accepted⟩ part := by
  cases found : payload.storedFollow? path with
  | none => simp [partValue, found, Relation.isTrue_orderTruth_null]
  | some part =>
      simp only [partValue, found, Option.elim_some, Relation.isTrue_orderTruth_iff]
      simp [Bound.Admits, Json.storedOrder?]

namespace Comparison

/-- A leaf holds for a printed payload if its field leads to a part that keeps the bounds. -/
theorem truth_of_isSimple {room : Nat} {payload : Json} {comparison : Comparison}
    (simple : comparison.IsSimple) (wellFormed : payload.WellFormed room)
    (shallow : room ≤ Payload.depthLimit) :
    ∃ truth, comparison.truth (.text payload.render) = .ok truth ∧
      (truth.isTrue = true ↔ comparison.Finds Json.storedFollow? Json.storedOrder? payload) := by
  rcases comparison with ⟨field, operator, value⟩
  rcases simple with ⟨bounded, simple⟩
  have part := extracted_render wellFormed shallow field.steps
  -- A leaf with one bound is a single test of the part.
  have single {accepted : List Ordering} (bounds : (Comparison.mk field operator value).bounds =
      [⟨value, accepted⟩]) :
      (Relation.orderTruth accepted (partValue field.steps payload)
          (.ofBind (.ofJson value))).isTrue = true ↔
        (Comparison.mk field operator value).Finds Json.storedFollow? Json.storedOrder? payload := by
    have valueSimple : value.IsSimple := simple ⟨value, accepted⟩ (by simp [bounds])
    rw [Json.ofBind_ofJson valueSimple, isTrue_orderTruth_partValue, Finds, bounds]
    simp
  cases operator with
  | equal => exact ⟨_, by simp only [truth, part, Relation.truth, ok_bind], single rfl⟩
  | greater => exact ⟨_, by simp only [truth, part, Relation.truth, ok_bind], single rfl⟩
  | less => exact ⟨_, by simp only [truth, part, Relation.truth, ok_bind], single rfl⟩
  | like => exact absurd rfl bounded
  | between =>
      have pair : ∃ low high, value = .array [low, high] := by
        unfold bounds at bounded
        split at bounded <;> simp_all
      rcases pair with ⟨low, high, rfl⟩
      have lowSimple : low.IsSimple := simple ⟨low, [.gt, .eq]⟩ (by simp [bounds])
      have highSimple : high.IsSimple := simple ⟨high, [.lt, .eq]⟩ (by simp [bounds])
      rcases extracted_pair lowSimple highSimple with ⟨lowFound, highFound⟩
      have evaluates : (Comparison.mk field .between (.array [low, high])).truth
          (.text payload.render) = .ok
            ((Relation.orderTruth [.gt, .eq] (partValue field.steps payload) (.ofPart low)).both
              (Relation.orderTruth [.lt, .eq] (partValue field.steps payload) (.ofPart high))) := by
        simp only [truth, part, lowFound, highFound, Relation.truth, ok_bind, pure_eq_ok]
      refine ⟨_, evaluates, ?_⟩
      rw [Truth.isTrue_both, Bool.and_eq_true, isTrue_orderTruth_partValue,
        isTrue_orderTruth_partValue, Finds]
      cases payload.storedFollow? field.steps <;> simp [bounds]

end Comparison

end Query

end TransactionLedger
