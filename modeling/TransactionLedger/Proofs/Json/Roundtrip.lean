import Mathlib.Data.String.Basic
import TransactionLedger.Json.Shape
import TransactionLedger.Proofs.Json.Building
import TransactionLedger.Proofs.Json.LegibleNumber
import TransactionLedger.Proofs.Outcome

/-!
# Reading what is printed

A value whose objects list their members in ascending order of the keys, and which is not nested too
deeply, is read back from its text with the numbers that its numerals denote. Where these are its
own numbers, the value itself is read back.
-/

namespace TransactionLedger.Json

/-- The keys ascend. -/
def Members.Ascending (members : Members) : Prop :=
  members.Pairwise fun earlier later => earlier.1 < later.1

mutual

/-- The value is nested into at most so many levels, and the keys of its objects ascend. -/
def WellFormed (room : Nat) : Json → Prop
  | array items => 0 < room ∧ itemsWellFormed (room - 1) items
  | object members => 0 < room ∧ Members.Ascending members ∧ membersWellFormed (room - 1) members
  | _ => True

@[inherit_doc WellFormed]
def itemsWellFormed (room : Nat) : List Json → Prop
  | [] => True
  | item :: rest => item.WellFormed room ∧ itemsWellFormed room rest

@[inherit_doc WellFormed]
def membersWellFormed (room : Nat) : List (String × Json) → Prop
  | [] => True
  | (_, value) :: rest => value.WellFormed room ∧ membersWellFormed room rest

end

mutual

/-- Every number in the value has the property. -/
def EveryNumber (property : Number → Prop) : Json → Prop
  | number value => property value
  | array items => everyItemNumber property items
  | object members => everyMemberNumber property members
  | _ => True

@[inherit_doc EveryNumber]
def everyItemNumber (property : Number → Prop) : List Json → Prop
  | [] => True
  | item :: rest => item.EveryNumber property ∧ everyItemNumber property rest

@[inherit_doc EveryNumber]
def everyMemberNumber (property : Number → Prop) : List (String × Json) → Prop
  | [] => True
  | (_, value) :: rest => value.EveryNumber property ∧ everyMemberNumber property rest

end

mutual

theorem EveryNumber.imp {property weaker : Number → Prop}
    (implies : ∀ number, property number → weaker number) (value : Json)
    (every : value.EveryNumber property) : value.EveryNumber weaker := by
  cases value with
  | number value => exact implies value every
  | array items => exact everyItemNumber.imp implies items every
  | object members => exact everyMemberNumber.imp implies members every
  | null => trivial
  | bool value => trivial
  | string value => trivial

theorem everyItemNumber.imp {property weaker : Number → Prop}
    (implies : ∀ number, property number → weaker number) (items : List Json)
    (every : everyItemNumber property items) : everyItemNumber weaker items := by
  cases items with
  | nil => trivial
  | cons item rest =>
      exact ⟨EveryNumber.imp implies item every.1, everyItemNumber.imp implies rest every.2⟩

theorem everyMemberNumber.imp {property weaker : Number → Prop}
    (implies : ∀ number, property number → weaker number) (members : List (String × Json))
    (every : everyMemberNumber property members) : everyMemberNumber weaker members := by
  cases members with
  | nil => trivial
  | cons member rest =>
      rcases member with ⟨key, value⟩
      exact ⟨EveryNumber.imp implies value every.1, everyMemberNumber.imp implies rest every.2⟩

end

theorem Members.insert_of_lt {key : String} {value : Json} {members : Members}
    (last : ∀ member ∈ members, member.1 < key) :
    members.insert key value = members ++ [(key, value)] := by
  induction members with
  | nil => rfl
  | cons member rest ih =>
      simp only [List.forall_mem_cons] at last
      rw [insert, if_neg (lt_asymm last.1), if_neg (ne_of_gt last.1), ih last.2]
      rfl

/-! ## Reading back -/

mutual

/-- The value with the numbers that the numerals of its numbers denote. -/
def reread : Json → Json
  | number value => .number (value.numeral.value?.getD value)
  | array items => .array (rereadItems items)
  | object members => .object (rereadMembers members)
  | value => value

@[inherit_doc reread]
def rereadItems : List Json → List Json
  | [] => []
  | item :: rest => item.reread :: rereadItems rest

@[inherit_doc reread]
def rereadMembers : List (String × Json) → List (String × Json)
  | [] => []
  | (key, value) :: rest => (key, value.reread) :: rereadMembers rest

end

theorem ascending_rereadMembers {members : Members} (ascending : members.Ascending) :
    Members.Ascending (rereadMembers members) := by
  have keys (members : List (String × Json)) :
      (rereadMembers members).map Prod.fst = members.map Prod.fst := by
    induction members with
    | nil => rfl
    | cons member rest ih =>
        rcases member with ⟨key, value⟩
        simp [rereadMembers, ih]
  rw [Members.Ascending, ← List.pairwise_map, keys, List.pairwise_map]
  exact ascending

open Node

mutual

/-- A value is read back from its node. -/
theorem readValue_node {room : Nat} (value : Json) (wellFormed : value.WellFormed room)
    (legible : value.EveryNumber Number.Legible) : readValue room value.node = .ok value.reread := by
  cases value with
  | null => rfl
  | bool value => rfl
  | number value =>
      rcases legible with ⟨number, denotes⟩
      simp [node, reread, readValue, Numeral.read, denotes]
  | string value => simp [node, reread, readValue, readSpelling]
  | array items =>
      rcases wellFormed with ⟨positive, wellFormed⟩
      rcases Nat.exists_eq_add_one_of_ne_zero (Nat.ne_of_gt positive) with ⟨room, rfl⟩
      have itemsRead := readItems_itemNodes items wellFormed legible
      rw [Nat.add_sub_cancel] at itemsRead
      simp [node, reread, readValue, itemsRead, Reading.require]
  | object members =>
      rcases wellFormed with ⟨positive, ascending, wellFormed⟩
      rcases Nat.exists_eq_add_one_of_ne_zero (Nat.ne_of_gt positive) with ⟨room, rfl⟩
      have membersRead := readMembers_memberNodes members [] wellFormed legible
        (ascending_rereadMembers ascending)
      rw [Nat.add_sub_cancel, List.nil_append] at membersRead
      simp [node, reread, readValue, membersRead, Reading.require]

theorem readItems_itemNodes {room : Nat} (items : List Json)
    (wellFormed : itemsWellFormed room items) (legible : everyItemNumber Number.Legible items) :
    readItems room (itemNodes items) = .ok (rereadItems items) := by
  cases items with
  | nil => rfl
  | cons item rest =>
      have itemRead := readValue_node item wellFormed.1 legible.1
      have restRead := readItems_itemNodes rest wellFormed.2 legible.2
      simp [itemNodes, rereadItems, readItems, itemRead, restRead]

theorem readMembers_memberNodes {room : Nat} (members : List (String × Json)) (done : Members)
    (wellFormed : membersWellFormed room members)
    (legible : everyMemberNumber Number.Legible members)
    (ascending : Members.Ascending (done ++ rereadMembers members)) :
    readMembers room done (memberNodes members) = .ok (done ++ rereadMembers members) := by
  cases members with
  | nil => simp [memberNodes, rereadMembers, readMembers]
  | cons member rest =>
      rcases member with ⟨key, value⟩
      have valueRead := readValue_node value wellFormed.1 legible.1
      -- The keys ascend, so every member is put behind those that are already there.
      have last : ∀ member ∈ done, member.1 < key := by
        intro member inside
        exact (List.pairwise_append.mp ascending).2.2 member inside (key, value.reread)
          (by simp [rereadMembers])
      rw [rereadMembers, List.append_cons] at ascending
      have restRead := readMembers_memberNodes rest _ wellFormed.2 legible.2 ascending
      simp [memberNodes, rereadMembers, readMembers, readSpelling, valueRead,
        Members.insert_of_lt last, restRead]

end

/-- The value is read back from its text, with the numbers that its numerals denote. -/
theorem parse_render_legible {value : Json} (wellFormed : value.WellFormed nestingLimit)
    (legible : value.EveryNumber Number.Legible) : parse value.render = .ok value.reread := by
  have read := readValue_node value wellFormed legible
  simp [parse, ofText_render, Document.readAll, read, Reading.require]

mutual

theorem reread_of_readable (value : Json) (readable : value.EveryNumber Number.Readable) :
    value.reread = value := by
  cases value with
  | number value =>
      rw [reread, show value.numeral.value? = some value from readable]
      rfl
  | array items => rw [reread, rereadItems_of_readable items readable]
  | object members => rw [reread, rereadMembers_of_readable members readable]
  | null => rfl
  | bool value => rfl
  | string value => rfl

theorem rereadItems_of_readable (items : List Json)
    (readable : everyItemNumber Number.Readable items) : rereadItems items = items := by
  cases items with
  | nil => rfl
  | cons item rest =>
      rw [rereadItems, reread_of_readable item readable.1, rereadItems_of_readable rest readable.2]

theorem rereadMembers_of_readable (members : List (String × Json))
    (readable : everyMemberNumber Number.Readable members) : rereadMembers members = members := by
  cases members with
  | nil => rfl
  | cons member rest =>
      rcases member with ⟨key, value⟩
      rw [rereadMembers, reread_of_readable value readable.1,
        rereadMembers_of_readable rest readable.2]

end

/-- The value is read back from its text. -/
theorem parse_render {value : Json} (wellFormed : value.WellFormed nestingLimit)
    (readable : value.EveryNumber Number.Readable) : parse value.render = .ok value := by
  have legible := EveryNumber.imp (fun number => Number.Readable.legible) value readable
  rw [parse_render_legible wellFormed legible, reread_of_readable value readable]

end TransactionLedger.Json
