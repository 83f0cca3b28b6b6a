import TransactionLedger.Proofs.Json.Roundtrip

/-!
# What is read from a document

Every value that is read is well-formed: members are put in the order of their keys, and what is
nested too deeply is refused. Its numbers are those that a document can hold, so it can be read
again after it is printed.
-/

namespace TransactionLedger.Json

theorem membersWellFormed_iff {room : Nat} {members : Members} :
    membersWellFormed room members ↔ ∀ member ∈ members, member.2.WellFormed room := by
  induction members with
  | nil => simp [membersWellFormed]
  | cons member rest ih => simp [membersWellFormed, ih]

theorem everyMemberNumber_iff {property : Number → Prop} {members : Members} :
    everyMemberNumber property members ↔ ∀ member ∈ members, member.2.EveryNumber property := by
  induction members with
  | nil => simp [everyMemberNumber]
  | cons member rest ih => simp [everyMemberNumber, ih]

namespace Members

theorem mem_insert {key : String} {value : Json} {members : Members} {member : String × Json}
    (inside : member ∈ insert key value members) : member = (key, value) ∨ member ∈ members := by
  induction members with
  | nil => simpa [insert] using inside
  | cons first rest ih =>
      rcases first with ⟨other, present⟩
      simp only [insert] at inside
      split_ifs at inside
      · simpa using inside
      · rcases List.mem_cons.mp inside with here | behind
        · exact .inl here
        · exact .inr (List.mem_cons_of_mem _ behind)
      · rcases List.mem_cons.mp inside with here | behind
        · exact .inr (by simp [here])
        · exact (ih behind).imp_right (List.mem_cons_of_mem _)

/-- A member is put in its place. -/
theorem Ascending.insert {key : String} {value : Json} {members : Members}
    (ascending : members.Ascending) : (members.insert key value).Ascending := by
  induction members with
  | nil => simp [Members.insert, Ascending]
  | cons first rest ih =>
      rcases first with ⟨other, present⟩
      rcases List.pairwise_cons.mp ascending with ⟨least, restAscending⟩
      simp only [Members.insert]
      split_ifs with before same
      · refine List.pairwise_cons.mpr ⟨?_, ascending⟩
        intro member inside
        rcases List.mem_cons.mp inside with rfl | behind
        · exact before
        · exact lt_trans before (least member behind)
      · exact List.pairwise_cons.mpr ⟨by simpa [same] using least, restAscending⟩
      · refine List.pairwise_cons.mpr ⟨?_, ih restAscending⟩
        intro member inside
        rcases mem_insert inside with rfl | behind
        · exact lt_of_le_of_ne (not_lt.mp before) (Ne.symm same)
        · exact least member behind

end Members

mutual

theorem WellFormed.mono {room more : Nat} (wider : room ≤ more) (value : Json)
    (wellFormed : value.WellFormed room) : value.WellFormed more := by
  cases value with
  | array items =>
      rcases wellFormed with ⟨positive, wellFormed⟩
      exact ⟨Nat.lt_of_lt_of_le positive wider,
        itemsWellFormed.mono (Nat.sub_le_sub_right wider 1) items wellFormed⟩
  | object members =>
      rcases wellFormed with ⟨positive, ascending, wellFormed⟩
      exact ⟨Nat.lt_of_lt_of_le positive wider, ascending,
        membersWellFormed.mono (Nat.sub_le_sub_right wider 1) members wellFormed⟩
  | null => trivial
  | bool value => trivial
  | number value => trivial
  | string value => trivial

theorem itemsWellFormed.mono {room more : Nat} (wider : room ≤ more) (items : List Json)
    (wellFormed : itemsWellFormed room items) : itemsWellFormed more items := by
  cases items with
  | nil => trivial
  | cons item rest =>
      exact ⟨WellFormed.mono wider item wellFormed.1, itemsWellFormed.mono wider rest wellFormed.2⟩

theorem membersWellFormed.mono {room more : Nat} (wider : room ≤ more)
    (members : List (String × Json)) (wellFormed : membersWellFormed room members) :
    membersWellFormed more members := by
  cases members with
  | nil => trivial
  | cons member rest =>
      rcases member with ⟨key, value⟩
      exact ⟨WellFormed.mono wider value wellFormed.1,
        membersWellFormed.mono wider rest wellFormed.2⟩

end

open Node

mutual

theorem wellFormed_of_readValue {room : Nat} {value : Json} (node : Node)
    (read : readValue room node = .ok value) : value.WellFormed room := by
  cases node with
  | null =>
      rcases Except.ok.inj read with rfl
      trivial
  | bool value =>
      rcases Except.ok.inj read with rfl
      trivial
  | number numeral =>
      simp only [readValue, bind_eq_ok_iff, pure_eq_ok, Except.ok.injEq] at read
      rcases read with ⟨_, -, rfl⟩
      trivial
  | string spelling =>
      simp only [readValue, bind_eq_ok_iff, pure_eq_ok, Except.ok.injEq] at read
      rcases read with ⟨_, -, rfl⟩
      trivial
  | array items closed =>
      cases room with
      | zero => contradiction
      | succ room =>
          simp only [readValue, bind_eq_ok_iff, pure_eq_ok, Except.ok.injEq] at read
          rcases read with ⟨values, itemsRead, _, -, rfl⟩
          exact ⟨Nat.succ_pos room, itemsWellFormed_of_readItems items itemsRead⟩
  | object members closed =>
      cases room with
      | zero => contradiction
      | succ room =>
          simp only [readValue, bind_eq_ok_iff, pure_eq_ok, Except.ok.injEq] at read
          rcases read with ⟨values, membersRead, _, -, rfl⟩
          exact ⟨Nat.succ_pos room,
            wellFormed_of_readMembers members List.Pairwise.nil trivial membersRead⟩
  | broken => contradiction

theorem itemsWellFormed_of_readItems {room : Nat} {values : List Json} (nodes : List Node)
    (read : readItems room nodes = .ok values) : itemsWellFormed room values := by
  cases nodes with
  | nil =>
      rcases Except.ok.inj read with rfl
      trivial
  | cons node rest =>
      simp only [readItems, bind_eq_ok_iff, pure_eq_ok, Except.ok.injEq] at read
      rcases read with ⟨first, firstRead, others, restRead, rfl⟩
      exact ⟨wellFormed_of_readValue node firstRead, itemsWellFormed_of_readItems rest restRead⟩

theorem wellFormed_of_readMembers {room : Nat} {done members : Members}
    (nodes : List (Source × Node)) (ascending : done.Ascending)
    (wellFormed : membersWellFormed room done) (read : readMembers room done nodes = .ok members) :
    members.Ascending ∧ membersWellFormed room members := by
  cases nodes with
  | nil =>
      rcases Except.ok.inj read with rfl
      exact ⟨ascending, wellFormed⟩
  | cons node rest =>
      rcases node with ⟨key, node⟩
      simp only [readMembers, bind_eq_ok_iff] at read
      rcases read with ⟨key, -, value, valueRead, restRead⟩
      have valueWellFormed := wellFormed_of_readValue node valueRead
      apply wellFormed_of_readMembers rest ascending.insert ?_ restRead
      rw [membersWellFormed_iff] at wellFormed ⊢
      intro member inside
      rcases Members.mem_insert inside with rfl | before
      · exact valueWellFormed
      · exact wellFormed member before

end

mutual

theorem valid_of_readValue {room : Nat} {value : Json} (node : Node)
    (read : readValue room node = .ok value) : value.EveryNumber Number.Valid := by
  cases node with
  | null =>
      rcases Except.ok.inj read with rfl
      trivial
  | bool value =>
      rcases Except.ok.inj read with rfl
      trivial
  | number numeral =>
      simp only [readValue, bind_eq_ok_iff, pure_eq_ok, Except.ok.injEq] at read
      rcases read with ⟨number, numberRead, rfl⟩
      cases denotes : numeral.value? with
      | none => simp [Numeral.read, denotes] at numberRead
      | some denoted =>
          have same : denoted = number := by simpa [Numeral.read, denotes] using numberRead
          exact Number.valid_of_value? (same ▸ denotes)
  | string spelling =>
      simp only [readValue, bind_eq_ok_iff, pure_eq_ok, Except.ok.injEq] at read
      rcases read with ⟨_, -, rfl⟩
      trivial
  | array items closed =>
      cases room with
      | zero => contradiction
      | succ room =>
          simp only [readValue, bind_eq_ok_iff, pure_eq_ok, Except.ok.injEq] at read
          rcases read with ⟨values, itemsRead, _, -, rfl⟩
          exact valid_of_readItems items itemsRead
  | object members closed =>
      cases room with
      | zero => contradiction
      | succ room =>
          simp only [readValue, bind_eq_ok_iff, pure_eq_ok, Except.ok.injEq] at read
          rcases read with ⟨values, membersRead, _, -, rfl⟩
          exact valid_of_readMembers members (by trivial) membersRead
  | broken => contradiction

theorem valid_of_readItems {room : Nat} {values : List Json} (nodes : List Node)
    (read : readItems room nodes = .ok values) : everyItemNumber Number.Valid values := by
  cases nodes with
  | nil =>
      rcases Except.ok.inj read with rfl
      trivial
  | cons node rest =>
      simp only [readItems, bind_eq_ok_iff, pure_eq_ok, Except.ok.injEq] at read
      rcases read with ⟨first, firstRead, others, restRead, rfl⟩
      exact ⟨valid_of_readValue node firstRead, valid_of_readItems rest restRead⟩

theorem valid_of_readMembers {room : Nat} {done members : Members}
    (nodes : List (Source × Node)) (valid : everyMemberNumber Number.Valid done)
    (read : readMembers room done nodes = .ok members) :
    everyMemberNumber Number.Valid members := by
  cases nodes with
  | nil =>
      rcases Except.ok.inj read with rfl
      exact valid
  | cons node rest =>
      rcases node with ⟨key, node⟩
      simp only [readMembers, bind_eq_ok_iff] at read
      rcases read with ⟨key, -, value, valueRead, restRead⟩
      have valueValid := valid_of_readValue node valueRead
      apply valid_of_readMembers rest ?_ restRead
      rw [everyMemberNumber_iff] at valid ⊢
      intro member inside
      rcases Members.mem_insert inside with rfl | before
      · exact valueValid
      · exact valid member before

end

theorem readMembers_of_readObject {room : Nat} {members : Members} {node : Node}
    (read : node.readObject room = .ok members) :
    ∃ fewer nodes, room = fewer + 1 ∧ readMembers fewer [] nodes = .ok members := by
  cases node with
  | object nodes closed =>
      cases room with
      | zero => contradiction
      | succ room =>
          simp only [readObject, bind_eq_ok_iff, pure_eq_ok, Except.ok.injEq] at read
          rcases read with ⟨values, membersRead, _, -, rfl⟩
          exact ⟨room, nodes, rfl, membersRead⟩
  | _ =>
      simp only [readObject, refuse, bind_eq_ok_iff] at read
      rcases read with ⟨_, -, refused⟩
      contradiction

theorem wellFormed_of_readObject {room : Nat} {members : Members} {node : Node}
    (read : node.readObject room = .ok members) : (object members).WellFormed room := by
  rcases readMembers_of_readObject read with ⟨room, nodes, rfl, membersRead⟩
  exact ⟨Nat.succ_pos room, wellFormed_of_readMembers nodes List.Pairwise.nil trivial membersRead⟩

theorem valid_of_readObject {room : Nat} {members : Members} {node : Node}
    (read : node.readObject room = .ok members) :
    (object members).EveryNumber Number.Valid := by
  rcases readMembers_of_readObject read with ⟨room, nodes, -, membersRead⟩
  exact valid_of_readMembers nodes (by trivial) membersRead

end TransactionLedger.Json
