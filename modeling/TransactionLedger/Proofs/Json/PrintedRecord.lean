import TransactionLedger.Proofs.Json.Reading

/-!
# Reading printed records

A printed record lists some of its fields, each once and in their order. It is read by taking these
over one after the other, and a field that is not listed leaves the draft as it is.
-/

namespace TransactionLedger.Json

open Node

/-! ## Printed values -/

@[simp]
theorem readString_node (text : String) : (string text).node.readString = .ok text := by
  simp [node, readString, readSpelling]

theorem readSigned_node {value : Int} (signed : IsSigned value) :
    (number (.integer value)).node.readSigned = .ok value := by
  have inside : IsInteger value := by
    rcases signed with ⟨least, largest⟩
    exact ⟨least, by omega⟩
  have denotes : (Number.integer value).numeral.value? = some (.integer value) :=
    Number.readable_integer inside
  simp [node, readSigned, Numeral.read, denotes, signed]

theorem readObject_node {room : Nat} {members : Members}
    (wellFormed : (object members).WellFormed room)
    (readable : (object members).EveryNumber Number.Readable) :
    (object members).node.readObject room = .ok members := by
  rcases wellFormed with ⟨positive, ascending, wellFormed⟩
  rcases Nat.exists_eq_add_one_of_ne_zero (Nat.ne_of_gt positive) with ⟨room, rfl⟩
  have same := rereadMembers_of_readable members readable
  have legible := everyMemberNumber.imp (fun _ => Number.Readable.legible) members readable
  have read := readMembers_memberNodes members [] wellFormed legible
    (ascending_rereadMembers ascending)
  rw [Nat.add_sub_cancel, List.nil_append, same] at read
  simp [node, readObject, read, Reading.require]

theorem readEach_strings (texts : List String) (position : Nat) :
    readEach readString position (itemNodes (texts.map string)) = .ok texts := by
  induction texts generalizing position with
  | nil => rfl
  | cons text rest ih =>
      have first : (readString (string text).node).within (.index position) = .ok text := by
        rw [readString_node]
        rfl
      simp only [List.map_cons, itemNodes, readEach, first, ih, ok_bind, pure_eq_ok]

theorem readList_node (room : Nat) (texts : List String) :
    (array (texts.map string)).node.readList (room + 1) readString = .ok texts := by
  simp [node, readList, readEach_strings, Reading.require]

theorem readOptional_node {α : Type} {read : Node → Reading α} {value : Json} {result : α}
    (present : value.node ≠ .null) (succeeds : read value.node = .ok result) :
    value.node.readOptional read = .ok (some result) := by
  unfold readOptional
  split
  · contradiction
  · rw [succeeds]
    rfl

theorem read_of_readOptional {α : Type} {read : Node → Reading α} {node : Node} {value : α}
    (succeeds : node.readOptional read = .ok (some value)) : read node = .ok value := by
  have unwraps {outcome : Reading α} (mapped : some <$> outcome = .ok (some value)) :
      outcome = .ok value := by
    cases outcome with
    | error error => contradiction
    | ok other => rw [Option.some.inj (Except.ok.inj mapped)]
  cases node with
  | null => exact nomatch Except.ok.inj succeeds
  | _ => exact unwraps succeeds

theorem read_of_readAll {α : Type} {document : Document} {read : Node → Reading α} {value : α}
    (succeeds : document.readAll read = .ok value) : read document.root = .ok value := by
  simp only [Document.readAll, bind_eq_ok_iff, pure_eq_ok, Except.ok.injEq] at succeeds
  rcases succeeds with ⟨other, succeeds, _, -, rfl⟩
  exact succeeds

theorem readAll_render {α : Type} {value : Json} {read : Node → Reading α} {result : α}
    (succeeds : read value.node = .ok result) :
    (Document.ofText value.render).readAll read = .ok result := by
  simp [ofText_render, Document.readAll, succeeds, Reading.require]

/-! ## Printed members -/

namespace RecordShape

variable {Draft Result : Type}

/-- Takes over fields that are known, each once. -/
def takeAll (shape : RecordShape Draft Result) (room : Nat) (draft : Draft) :
    Members → Reading Draft
  | [] => .ok draft
  | (key, value) :: rest => do
    let draft ← (shape.take room key value.node draft).within (.field key)
    shape.takeAll room draft rest

variable {shape : RecordShape Draft Result} {room : Nat}

theorem takeMembers_memberNodes (room : Nat) {members : Members} (seen : List String) (draft : Draft)
    (known : ∀ member ∈ members, member.1 ∈ shape.fields)
    (distinct : (members.map Prod.fst).Nodup) (fresh : ∀ member ∈ members, member.1 ∉ seen) :
    shape.takeMembers room seen draft (memberNodes members) = shape.takeAll room draft members := by
  induction members generalizing seen draft with
  | nil => rfl
  | cons member rest ih =>
      rcases member with ⟨key, value⟩
      rcases List.forall_mem_cons.mp known with ⟨keyKnown, restKnown⟩
      rcases List.forall_mem_cons.mp fresh with ⟨keyFresh, restFresh⟩
      rcases List.nodup_cons.mp distinct with ⟨keyOnce, restDistinct⟩
      have goesOn (behind : Draft) := ih (key :: seen) behind restKnown restDistinct (by
        intro other inside
        have listed : other.1 ∈ rest.map Prod.fst := List.mem_map_of_mem inside
        rw [List.mem_cons, not_or]
        refine ⟨?_, restFresh other inside⟩
        rintro rfl
        exact keyOnce listed)
      simp only [memberNodes, takeMembers, readSpelling, spelledText?_spelling, ok_bind,
        List.contains_iff_mem, keyKnown, keyFresh, if_true, if_false, goesOn, takeAll]

/-- A printed record is read field by field. -/
theorem read_object {members : Members} {draft : Draft} {result : Result}
    (ordered : shape.fields.Nodup) (listed : (members.map Prod.fst).Sublist shape.fields)
    (taken : shape.takeAll room shape.empty members = .ok draft)
    (finished : shape.finish draft = .ok result) :
    shape.read (room + 1) (object members).node = .ok result := by
  have known : ∀ member ∈ members, member.1 ∈ shape.fields := by
    intro member inside
    exact listed.subset (List.mem_map_of_mem inside)
  have takes := takeMembers_memberNodes room [] shape.empty known (ordered.sublist listed) (by simp)
  simp [node, read, takes, taken, Reading.require, close, finished]

theorem takeAll_cons {draft after : Draft} {key : String} {value : Json}
    (taken : shape.take room key value.node draft = .ok after) (rest : Members) :
    shape.takeAll room draft ((key, value) :: rest) = shape.takeAll room after rest := by
  rw [takeAll, taken]
  rfl

end RecordShape

end TransactionLedger.Json
