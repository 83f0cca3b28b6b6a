import Mathlib.Tactic.SplitIfs
import TransactionLedger.Json.Shape
import TransactionLedger.Proofs.Outcome

/-!
# Reading records field by field

Whatever every field of a record keeps when it is taken over holds of the draft that the record is
made from, whether it is read from an object or from an array.
-/

namespace TransactionLedger.Json

namespace RecordShape

variable {Draft Result : Type} {shape : RecordShape Draft Result} {room : Nat}
  {property : Draft → Prop}

theorem of_takeMembers
    (keeps : ∀ field node before behind, shape.take room field node before = .ok behind →
      property before → property behind)
    {seen : List String} {before behind : Draft} {members : List (Source × Node)}
    (holds : property before) (taken : shape.takeMembers room seen before members = .ok behind) :
    property behind := by
  induction members generalizing seen before with
  | nil =>
      rcases Except.ok.inj taken with rfl
      exact holds
  | cons member rest ih =>
      rcases member with ⟨key, node⟩
      simp only [takeMembers, bind_eq_ok_iff] at taken
      rcases taken with ⟨key, -, taken⟩
      split_ifs at taken
      · contradiction
      · simp only [bind_eq_ok_iff, Reading.within, mapError_eq_ok_iff] at taken
        rcases taken with ⟨between, fieldTaken, taken⟩
        exact ih (keeps key node before between fieldTaken holds) taken
      · simp only [bind_eq_ok_iff] at taken
        rcases taken with ⟨_, -, taken⟩
        exact ih holds taken

theorem of_takeItems
    (keeps : ∀ field node before behind, shape.take room field node before = .ok behind →
      property before → property behind)
    {closed : Bool} {position : Nat} {before behind : Draft} {fields : List String}
    {items : List Node} (holds : property before)
    (taken : shape.takeItems room closed position before fields items = .ok behind) :
    property behind := by
  induction fields generalizing position before items with
  | nil =>
      simp only [takeItems, bind_eq_ok_iff, pure_eq_ok, Except.ok.injEq] at taken
      rcases taken with ⟨_, -, rfl⟩
      exact holds
  | cons field fields ih =>
      cases items with
      | nil =>
          simp only [takeItems, bind_eq_ok_iff] at taken
          rcases taken with ⟨_, -, taken⟩
          split_ifs at taken
          · exact ih holds taken
          · contradiction
      | cons item items =>
          simp only [takeItems, bind_eq_ok_iff, Reading.within, mapError_eq_ok_iff] at taken
          rcases taken with ⟨between, fieldTaken, taken⟩
          exact ih (keeps field item before between fieldTaken holds) taken

/-- What every field keeps holds of the draft that a record is made from. -/
theorem of_read
    (keeps : ∀ field node before behind, shape.take room field node before = .ok behind →
      property before → property behind)
    (holds : property shape.empty) {node : Node} {result : Result}
    (read : shape.read (room + 1) node = .ok result) :
    ∃ draft, property draft ∧ shape.finish draft = .ok result := by
  have finished {draft : Draft} (closed : shape.close draft = .ok result) :
      shape.finish draft = .ok result := by
    simp only [close] at closed
    split at closed
    · rename_i finishes
      rw [finishes, Except.ok.inj closed]
    · contradiction
  cases node with
  | object members closed =>
      simp only [RecordShape.read, bind_eq_ok_iff] at read
      rcases read with ⟨draft, taken, _, -, closed⟩
      exact ⟨draft, of_takeMembers keeps holds taken, finished closed⟩
  | array items closed =>
      simp only [RecordShape.read, bind_eq_ok_iff] at read
      rcases read with ⟨draft, taken, closed⟩
      exact ⟨draft, of_takeItems keeps holds taken, finished closed⟩
  | _ =>
      simp only [RecordShape.read, Node.refuse, bind_eq_ok_iff] at read
      rcases read with ⟨_, -, refused⟩
      contradiction

end RecordShape

end TransactionLedger.Json
