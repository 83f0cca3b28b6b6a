import Mathlib.Data.List.Find
import TransactionLedger.Proofs.Json.Reading
import TransactionLedger.Proofs.Sql.Payload

/-!
# Paths in the database

The database compares a key up to its first NUL and counts positions with 32 bits. Where a path
leads to a part by whole keys and numbers, it leads to the same part in the database: a key that
goes on with a NUL behind the name stands behind the name itself. Where the path leads nowhere, the
database can still find a part, but only under such a key.
-/

namespace TransactionLedger

open Query

/-- The database can count up to the position. -/
def Query.Segment.IsAddressable : Segment → Prop
  | member _ => True
  | element digits => Text.naturalOf digits.val < Json.Node.positionModulus

instance : DecidablePred Segment.IsAddressable
  | .member _ => isTrue trivial
  | .element _ => inferInstanceAs (Decidable (_ < _))

namespace Json

/-! ## Keys -/

theorem comparedKey_of_plain {key : List Char} (plain : '\x00' ∉ key) :
    Node.comparedKey key = key := by
  rw [Node.comparedKey, List.takeWhile_eq_self_iff]
  intro c inside
  exact bne_iff_ne.mpr fun same => plain (same ▸ inside)

/-- A name has no NUL. -/
theorem plain_of_isIdentifier {name : List Char} (named : isIdentifier name = true) :
    '\x00' ∉ name := by
  cases name with
  | nil => exact List.not_mem_nil
  | cons first rest =>
      rcases Bool.and_eq_true_iff.mp named with ⟨starts, goesOn⟩
      intro inside
      rcases List.mem_cons.mp inside with rfl | behind
      · exact absurd starts (by decide)
      · exact absurd (List.all_eq_true.mp goesOn _ behind) (by decide)

/-- A key that is compared like another one does not stand before it. -/
theorem not_lt_of_comparedKey {key name : String}
    (same : Node.comparedKey key.toList = name.toList) : ¬key < name := by
  rw [String.lt_iff_toList_lt, ← same]
  exact List.not_lt.mpr (List.takeWhile_prefix _).le

/-- In ascending members the first key that is compared like a name is the name itself, if it is
there. -/
theorem Members.find?_comparedKey {members : Members} {member : String × Json} {name : Identifier}
    (ascending : members.Ascending)
    (found : members.find? (fun member => member.1 == String.ofList name.val) = some member) :
    members.find? (fun member => Node.comparedKey member.1.toList == name.val) = some member := by
  rw [List.find?_eq_some_iff_append] at found ⊢
  rcases found with ⟨named, front, back, rfl, -⟩
  have key : member.1.toList = name.val := by rw [beq_iff_eq.mp named, String.toList_ofList]
  refine ⟨?_, front, back, rfl, ?_⟩
  · rw [beq_iff_eq, key, comparedKey_of_plain (plain_of_isIdentifier name.property)]
  · intro other before
    have less : other.1 < member.1 :=
      (List.pairwise_append.mp ascending).2.2 other before member List.mem_cons_self
    rw [Bool.not_eq_true', beq_eq_false_iff_ne, ← key]
    exact fun same => not_lt_of_comparedKey same less

/-! ## Where a path leads -/

theorem itemsWellFormed_iff {room : Nat} {items : List Json} :
    itemsWellFormed room items ↔ ∀ item ∈ items, item.WellFormed room := by
  induction items with
  | nil => simp [itemsWellFormed]
  | cons item rest ih => simp [itemsWellFormed, ih]

section Following

variable {room : Nat} {value part : Json}

theorem wellFormed_of_child? {step : Segment} (wellFormed : value.WellFormed room)
    (found : value.child? step = some part) : part.WellFormed room := by
  cases step with
  | member name =>
      cases value with
      | object members =>
          rcases Option.map_eq_some_iff.mp found with ⟨member, isFirst, rfl⟩
          have inside := List.mem_of_find?_eq_some isFirst
          exact (membersWellFormed_iff.mp wellFormed.2.2 member inside).mono (Nat.sub_le room 1)
      | _ => contradiction
  | element digits =>
      cases value with
      | array items =>
          rcases List.getElem?_eq_some_iff.mp found with ⟨inRange, rfl⟩
          have inside := List.getElem_mem inRange
          exact (itemsWellFormed_iff.mp wellFormed.2 _ inside).mono (Nat.sub_le room 1)
      | _ => contradiction

theorem storedChild?_of_child? {step : Segment} (wellFormed : value.WellFormed room)
    (addressable : step.IsAddressable) (found : value.child? step = some part) :
    value.storedChild? step = some part := by
  cases step with
  | member name =>
      cases value with
      | object members =>
          rcases Option.map_eq_some_iff.mp found with ⟨member, isFirst, rfl⟩
          exact Option.map_eq_some_iff.mpr
            ⟨member, Members.find?_comparedKey wellFormed.2.1 isFirst, rfl⟩
      | _ => contradiction
  | element digits =>
      cases value with
      | array items =>
          rw [storedChild?, Nat.mod_eq_of_lt addressable]
          exact found
      | _ => contradiction

/-- A part to which a path leads is the part to which it leads in the database. -/
theorem storedFollow?_of_follow? {path : List Segment} (wellFormed : value.WellFormed room)
    (addressable : ∀ step ∈ path, step.IsAddressable) (found : value.follow? path = some part) :
    value.storedFollow? path = some part := by
  induction path generalizing value with
  | nil => exact found
  | cons step rest ih =>
      rcases List.forall_mem_cons.mp addressable with ⟨first, others⟩
      rcases Option.bind_eq_some_iff.mp found with ⟨next, isChild, leads⟩
      rw [storedFollow?, storedChild?_of_child? wellFormed first isChild, Option.bind_some]
      exact ih (wellFormed_of_child? wellFormed isChild) others leads

end Following

/-! ## Plain keys -/

mutual

/-- No key in the value has a NUL. -/
def HasPlainKeys : Json → Prop
  | array items => itemsHavePlainKeys items
  | object members => membersHavePlainKeys members
  | _ => True

@[inherit_doc HasPlainKeys]
def itemsHavePlainKeys : List Json → Prop
  | [] => True
  | item :: rest => item.HasPlainKeys ∧ itemsHavePlainKeys rest

@[inherit_doc HasPlainKeys]
def membersHavePlainKeys : List (String × Json) → Prop
  | [] => True
  | (key, value) :: rest =>
    '\x00' ∉ key.toList ∧ value.HasPlainKeys ∧ membersHavePlainKeys rest

end

theorem itemsHavePlainKeys_iff {items : List Json} :
    itemsHavePlainKeys items ↔ ∀ item ∈ items, item.HasPlainKeys := by
  induction items with
  | nil => simp [itemsHavePlainKeys]
  | cons item rest ih => simp [itemsHavePlainKeys, ih]

theorem membersHavePlainKeys_iff {members : Members} :
    membersHavePlainKeys members ↔
      ∀ member ∈ members, '\x00' ∉ member.1.toList ∧ member.2.HasPlainKeys := by
  induction members with
  | nil => simp [membersHavePlainKeys]
  | cons member rest ih => simp [membersHavePlainKeys, ih, and_assoc]

section PlainKeys

variable {value part : Json}

theorem hasPlainKeys_of_storedChild? {step : Segment} (plain : value.HasPlainKeys)
    (found : value.storedChild? step = some part) : part.HasPlainKeys := by
  cases step with
  | member name =>
      cases value with
      | object members =>
          rcases Option.map_eq_some_iff.mp found with ⟨member, isFirst, rfl⟩
          exact (membersHavePlainKeys_iff.mp plain member (List.mem_of_find?_eq_some isFirst)).2
      | _ => contradiction
  | element digits =>
      cases value with
      | array items =>
          rcases List.getElem?_eq_some_iff.mp found with ⟨inRange, rfl⟩
          exact itemsHavePlainKeys_iff.mp plain _ (List.getElem_mem inRange)
      | _ => contradiction

theorem storedChild?_of_hasPlainKeys {step : Segment} (plain : value.HasPlainKeys)
    (addressable : step.IsAddressable) : value.storedChild? step = value.child? step := by
  cases step with
  | member name =>
      cases value with
      | object members =>
          have alike : ∀ member ∈ members, (Node.comparedKey member.1.toList == name.val) =
              (member.1 == String.ofList name.val) := by
            intro member inside
            rw [comparedKey_of_plain (membersHavePlainKeys_iff.mp plain member inside).1,
              Bool.eq_iff_iff, beq_iff_eq, beq_iff_eq, ← String.toList_inj, String.toList_ofList]
          rw [storedChild?, child?, Members.get?, List.find?_congr alike]
      | _ => rfl
  | element digits =>
      cases value with
      | array items => rw [storedChild?, child?, Nat.mod_eq_of_lt addressable]
      | _ => rfl

/-- Without a NUL in its keys a payload is followed alike. -/
theorem storedFollow?_of_hasPlainKeys {path : List Segment} (plain : value.HasPlainKeys)
    (addressable : ∀ step ∈ path, step.IsAddressable) :
    value.storedFollow? path = value.follow? path := by
  induction path generalizing value with
  | nil => rfl
  | cons step rest ih =>
      rcases List.forall_mem_cons.mp addressable with ⟨first, others⟩
      rw [storedFollow?, follow?, ← storedChild?_of_hasPlainKeys plain first]
      cases found : value.storedChild? step with
      | none => rfl
      | some next => exact ih (hasPlainKeys_of_storedChild? plain found) others

end PlainKeys

/-- A key that goes on with a NUL is taken for the name before it. -/
example : (object [("amount\x00x", null)]).storedFollow? [.member ⟨"amount".toList, rfl⟩] =
    some null := rfl

end Json

end TransactionLedger
