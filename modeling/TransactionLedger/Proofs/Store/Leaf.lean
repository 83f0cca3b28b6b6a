import Mathlib
import TransactionLedger.Proofs.Filter.Leaf
import TransactionLedger.Proofs.Sql.StoredPath
import TransactionLedger.Proofs.Store.Conjunction

/-!
# Searches for one leaf

A search for a leaf other than a pattern finds the records with a part, as the database follows the
path, that keeps its bounds under the order of the database. Where the path leads to a text, a
boolean or an integer of the kind of the value, this is that part and the order of its kind. But
strings, arrays and objects are greater than every number and boolean, so parts of another kind than
the value are found too, and a key that goes on with a NUL behind the name is taken for the name.
-/

namespace TransactionLedger

open TransactionLedger.Filter Query Sql

namespace Filter

variable {comparison : Comparison}

theorem ofSearch_leaf (comparison : Comparison) :
    ofSearch { expression := some (.leaf comparison) } =
      ⟨some (.group (leafCondition 0 comparison)), (ofExpression (.leaf comparison)).values⟩ :=
  ofSearch_expression (.leaf comparison)

theorem checkLimits_ofLeaf (comparison : Comparison) :
    (ofSearch { expression := some (.leaf comparison) }).checkLimits = .ok () := by
  rw [ofSearch_leaf]
  cases operator : comparison.operator <;>
    simp [checkLimits, names, ofExpression, numbered, Expression.leaves, withinDepth,
      leafCondition, operator, Condition.demands, Operand.demands, Operand.placeholders,
      variableLimit, depthLimit]

/-- A row passes if its payload has a part that keeps the bounds. -/
theorem accepts_ofLeaf {room : Nat} {payload : Json} {row : Column → Value}
    (simple : comparison.IsSimple) (wellFormed : payload.WellFormed room)
    (shallow : room ≤ Payload.depthLimit) (stored : row .data = .text payload.render) :
    (ofSearch { expression := some (.leaf comparison) }).accepts row =
      .ok (decide (comparison.Finds Json.storedFollow? Json.storedOrder? payload)) := by
  rcases Comparison.truth_of_isSimple simple wellFormed shallow with ⟨truth, evaluates, holds⟩
  have inside : (Expression.leaf comparison).leaves[0]? = some comparison := rfl
  have bound := placeholder_ofExpression row inside
  have known : (leafCondition 0 comparison).truth
      ⟨row, (ofExpression (.leaf comparison)).bindings⟩ = .ok truth := by
    rw [← evaluates, ← stored]
    exact truth_leafCondition bound
  have judged := Condition.holds_of_truth known
  have decided : truth.isTrue =
      decide (comparison.Finds Json.storedFollow? Json.storedOrder? payload) := by
    rw [Bool.eq_iff_iff, holds, decide_eq_true_eq]
  rw [ofSearch_leaf, ← decided]
  exact judged

end Filter

namespace Query

/-- The value of the bound is of the part's kind. -/
def Bound.IsOfKind (bound : Bound) (part : Json) : Prop :=
  (part.order? bound.value).isSome

/-- A simple part that is of the kind of a bound keeps it as the kind says. -/
theorem Bound.admits_iff {bound : Bound} {part : Json} (simple : bound.value.IsSimple)
    (partSimple : part.IsSimple) (sameKind : bound.IsOfKind part) :
    bound.Admits Json.storedOrder? part ↔ bound.Admits Json.order? part := by
  rcases Option.isSome_iff_exists.mp sameKind with ⟨ordering, compared⟩
  have stored := Json.storedOrder?_of_order? partSimple simple compared
  rw [Bound.Admits, Bound.Admits, stored, compared]

namespace Comparison

variable {comparison : Comparison} {payload part : Json}

theorem finds_iff {follow? : List Segment → Json → Option Json}
    {order? : Json → Json → Option Ordering}
    (found : follow? comparison.field.steps payload = some part) :
    comparison.Finds follow? order? payload ↔
      ∀ bound ∈ comparison.bounds, bound.Admits order? part := by
  simp [Finds, found]

section Stored

variable (foundStored : payload.storedFollow? comparison.field.steps = some part)
include foundStored

/-- Among parts of the kind of the values, the comparison finds what the kind says. -/
theorem finds_stored_iff (simple : comparison.IsSimple)
    (found : payload.follow? comparison.field.steps = some part) (partSimple : part.IsSimple)
    (sameKind : ∀ bound ∈ comparison.bounds, bound.IsOfKind part) :
    comparison.Finds Json.storedFollow? Json.storedOrder? payload ↔
      comparison.Finds Json.follow? Json.order? payload := by
  rw [finds_iff foundStored, finds_iff found]
  refine forall₂_congr fun bound inside => ?_
  exact Bound.admits_iff (simple.simple bound inside) partSimple (sameKind bound inside)

/-- Whatever is a text to the database is greater than every number and boolean. -/
theorem finds_text (operator : comparison.operator = .greater)
    (text : part.storageRank? = some 1) (value : comparison.value.storageRank? = some 0) :
    comparison.Finds Json.storedFollow? Json.storedOrder? payload := by
  rw [finds_iff foundStored]
  intro bound inside
  have only : bound = ⟨comparison.value, [.gt]⟩ := by simpa [bounds, operator] using inside
  rw [only]
  exact ⟨.gt, by simp, Json.storedOrder?_of_storageRank? text value (by simp)⟩

end Stored

end Comparison

end Query

namespace Store

/-- A search for a leaf other than a pattern finds the records with a part at the end of the path,
as the database follows it, that keeps the bounds of the leaf under the order of the database. If
the database can count up to the positions in the path, a part to which the path leads is this part,
and no other part is there if no key has a NUL. If the part and the values are of one kind, texts,
booleans or integers of 64 bits with a sign, the order is that of the kind. But every string, array
and object is found as greater than a number or a boolean. -/
theorem select_ofLeaf {database : Database} {table : Table} {comparison : Comparison}
    {payload : Row → Json.Members} (reached : database.table = .ok table)
    (simple : comparison.IsSimple)
    (stored : ∀ row ∈ table.rows, row.cells.data = .text (Json.object (payload row)).render)
    (wellFormed : ∀ row ∈ table.rows,
      (Json.object (payload row)).WellFormed Json.Node.nestingLimit) :
    (∀ entries,
        database.select (ofSearch { expression := some (.leaf comparison) }) = .ok entries ↔
          (table.rows.filter fun row => comparison.Finds Json.storedFollow? Json.storedOrder?
            (.object (payload row))).mapM Row.entry = .ok entries) ∧
      ((∀ step ∈ comparison.field.steps, step.IsAddressable) → ∀ row ∈ table.rows,
        ((Json.object (payload row)).HasPlainKeys →
          (Json.object (payload row)).storedFollow? comparison.field.steps =
            (Json.object (payload row)).follow? comparison.field.steps) ∧
        ∀ part, (Json.object (payload row)).follow? comparison.field.steps = some part →
          (Json.object (payload row)).storedFollow? comparison.field.steps = some part ∧
          (part.IsSimple → (∀ bound ∈ comparison.bounds, bound.IsOfKind part) →
            (comparison.Finds Json.storedFollow? Json.storedOrder? (.object (payload row)) ↔
              comparison.Finds Json.follow? Json.order? (.object (payload row)))) ∧
          (comparison.operator = .greater → comparison.value.storageRank? = some 0 →
            part.storageRank? = some 1 →
            comparison.Finds Json.storedFollow? Json.storedOrder? (.object (payload row)))) := by
  constructor
  · intro entries
    apply Database.select_eq_ok_iff reached (checkLimits_ofLeaf comparison)
    intro row inside
    have text : row.value .data = .text (Json.object (payload row)).render := by
      simp [Row.value, stored row inside, Cell.value]
    exact accepts_ofLeaf simple (wellFormed row inside) (by decide) text
  · intro addressable row inside
    refine ⟨fun plain => Json.storedFollow?_of_hasPlainKeys plain addressable, ?_⟩
    intro part found
    have foundStored := Json.storedFollow?_of_follow? (wellFormed row inside) addressable found
    refine ⟨foundStored, ?_, ?_⟩
    · intro partSimple sameKind
      exact Comparison.finds_stored_iff foundStored simple found partSimple sameKind
    · intro operator value text
      exact Comparison.finds_text foundStored operator text value

/-! ## Examples -/

/-- Two amounts and a text. -/
def amountOf : Int → Json
  | 1 => .number (.integer 5)
  | 2 => .number (.integer 50)
  | _ => .string "5"

def amountRow (id : Int) : Row where
  id := id
  cells := { (sampleRow id "tx" "payment").cells with
    data := .text (Json.object [("amount", amountOf id)]).render }

def amountEntry (id : Int) : Entry :=
  { sampleEntry id "tx" "payment" with data := [("amount", amountOf id)] }

def amountTable : Table where
  rows := [amountRow 1, amountRow 2, amountRow 3]
  largestId := 3
  ascending := by decide
  bounded := by decide

def amountDatabase : Database where
  place := .present (some amountTable)
  prepared := true

/-- The amount is above ten. -/
def amountAboveTen : Comparison :=
  ⟨⟨⟨['a', 'm', 'o', 'u', 'n', 't'], rfl⟩, []⟩, .greater, .number (.integer 10)⟩

theorem select_amountAboveTen :
    amountDatabase.select (ofSearch { expression := some (.leaf amountAboveTen) }) =
      .ok [amountEntry 2, amountEntry 3] := by
  have reached : amountDatabase.table = .ok amountTable := rfl
  have simple : amountAboveTen.IsSimple := by
    refine ⟨by simp [amountAboveTen, Comparison.bounds], ?_⟩
    simp [amountAboveTen, Comparison.bounds, Json.IsSimple, Json.IsSigned]
  have stored : ∀ row ∈ amountTable.rows,
      row.cells.data = .text (Json.object [("amount", amountOf row.id)]).render := by
    simp [amountTable, amountRow]
  have wellFormed : ∀ row ∈ amountTable.rows,
      (Json.object [("amount", amountOf row.id)]).WellFormed Json.Node.nestingLimit := by
    simp [amountTable, amountRow, Json.WellFormed, Json.membersWellFormed, Json.Members.Ascending,
      amountOf, Json.Node.nestingLimit]
  have kept : (amountTable.rows.filter fun row => amountAboveTen.Finds Json.storedFollow?
      Json.storedOrder? (.object [("amount", amountOf row.id)])) = [amountRow 2, amountRow 3] := by
    decide
  apply ((select_ofLeaf reached simple stored wellFormed).1 _).mpr
  rw [kept]
  cbv

/-- The text is found although it is not a number. -/
theorem select_other_kind : ∃ entries,
    amountDatabase.select (ofSearch { expression := some (.leaf amountAboveTen) }) =
        .ok entries ∧
      ∃ entry ∈ entries, ¬ amountAboveTen.Finds Json.follow? Json.order? (.object entry.data) := by
  refine ⟨[amountEntry 2, amountEntry 3], by cbv, amountEntry 3, by simp, ?_⟩
  decide

end Store

end TransactionLedger
