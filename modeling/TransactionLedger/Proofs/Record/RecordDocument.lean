import TransactionLedger.Proofs.Json.Reading
import TransactionLedger.Proofs.Json.Shape
import TransactionLedger.Record.RecordDocument

/-!
# Records that callers send

The data of a record that is read from a document is a well-formed object, and it can be read again
once it is stored.
-/

namespace TransactionLedger.Record

open Json

/-- Only the field of the data changes the data. -/
theorem RecordDraft.data_of_take {room : Nat} {field : String} {node : Node}
    {before behind : RecordDraft} (taken : before.take room field node = .ok behind) :
    behind.data = before.data ∨ node.readObject room = .ok behind.data := by
  unfold take at taken
  split at taken
  case h_6 =>
    rcases bind_eq_ok_iff.mp taken with ⟨data, read, made⟩
    rcases Except.ok.inj made with rfl
    exact .inr read
  case h_7 =>
    rcases Except.ok.inj taken with rfl
    exact .inl rfl
  all_goals
    rcases bind_eq_ok_iff.mp taken with ⟨value, -, made⟩
    rcases Except.ok.inj made with rfl
    exact .inl rfl

theorem RecordDraft.data_of_finish {draft : RecordDraft} {document : RecordDocument}
    (finished : draft.finish = .ok document) : document.data = draft.data := by
  unfold finish at finished
  split at finished
  case h_4 =>
    rcases Except.ok.inj finished with rfl
    rfl
  all_goals contradiction

/-- The data of a record that is read is empty or read as an object. -/
theorem RecordDocument.data_of_read {node : Node} {document : RecordDocument}
    (read : RecordDocument.read node = .ok document) :
    document.data = [] ∨ ∃ node : Node, node.readObject 126 = .ok document.data := by
  have keeps (field : String) (node : Node) (before behind : RecordDraft)
      (taken : shape.take 126 field node before = .ok behind)
      (origin : before.data = [] ∨ ∃ node : Node, node.readObject 126 = .ok before.data) :
      behind.data = [] ∨ ∃ node : Node, node.readObject 126 = .ok behind.data := by
    rcases RecordDraft.data_of_take taken with kept | read
    · rwa [kept]
    · exact .inr ⟨node, read⟩
  rcases RecordShape.of_read keeps (.inl rfl) read with ⟨draft, origin, finished⟩
  rwa [RecordDraft.data_of_finish finished]

/-- The data of a record that is read is well-formed. -/
theorem RecordDocument.wellFormed_of_read {node : Node} {document : RecordDocument}
    (read : RecordDocument.read node = .ok document) :
    (object document.data).WellFormed Node.nestingLimit := by
  rcases data_of_read read with none | ⟨node, read⟩
  · rw [none]
    exact ⟨by decide, List.Pairwise.nil, trivial⟩
  · exact WellFormed.mono (by decide) _ (wellFormed_of_readObject read)

theorem RecordDocument.valid_of_read {node : Node} {document : RecordDocument}
    (read : RecordDocument.read node = .ok document) :
    (object document.data).EveryNumber Number.Valid := by
  rcases data_of_read read with none | ⟨node, read⟩
  · rw [none]
    trivial
  · exact valid_of_readObject read

/-- The data of a record that is read can be read again once it is stored. -/
theorem RecordDocument.legible_of_read {node : Node} {document : RecordDocument}
    (read : RecordDocument.read node = .ok document) :
    (object document.data).EveryNumber Number.Legible :=
  EveryNumber.imp (fun _ => Number.Valid.legible) _ (valid_of_read read)

theorem RecordDocument.read_of_parse {text : String} {document : RecordDocument}
    (parsed : parse text = .ok document) :
    RecordDocument.read (Document.ofText text).root = .ok document := by
  simp only [parse, Document.readAll, bind_eq_ok_iff, pure_eq_ok, Except.ok.injEq] at parsed
  rcases parsed with ⟨other, read, _, -, rfl⟩
  exact read

theorem RecordDocument.wellFormed_of_parse {text : String} {document : RecordDocument}
    (parsed : parse text = .ok document) :
    (object document.data).WellFormed Node.nestingLimit :=
  wellFormed_of_read (read_of_parse parsed)

theorem RecordDocument.valid_of_parse {text : String} {document : RecordDocument}
    (parsed : parse text = .ok document) :
    (object document.data).EveryNumber Number.Valid :=
  valid_of_read (read_of_parse parsed)

theorem RecordDocument.legible_of_parse {text : String} {document : RecordDocument}
    (parsed : parse text = .ok document) :
    (object document.data).EveryNumber Number.Legible :=
  legible_of_read (read_of_parse parsed)

end TransactionLedger.Record
