import TransactionLedger.Proofs.Json.PrintedRecord
import TransactionLedger.Proofs.Query.PrintedDraft
import TransactionLedger.Proofs.Record.Ledger
import TransactionLedger.Record.SearchDocument

/-!
# Printed documents

Records, searches and drafts that have been read from a document are printed as objects, whether
they were given as objects or as arrays, and without the fields that have no value. The text is read
back as the same value, so printing once more changes nothing.
-/

namespace TransactionLedger.Record

open Json Query

/-! ## Fields without a value -/

theorem sublist_optionalMember {α : Type} (key : String) (toJson : α → Json) (value : Option α) :
    ((RecordDocument.optionalMember key toJson value).map Prod.fst).Sublist [key] := by
  cases value with
  | none => exact List.nil_sublist _
  | some value => exact List.Sublist.refl _

/-- A field that is listed only when it has a value is set to what it is, if the draft has nothing
there yet. -/
theorem takeAll_optionalMember {α Draft Result : Type} {shape : RecordShape Draft Result}
    {room : Nat} {key : String} {toJson : α → Json} {read : Node → Reading α} {value : Option α}
    (put : Option α → Draft → Draft) {draft : Draft} (empty : put none draft = draft)
    (takes : ∀ node, shape.take room key node draft = (node.readOptional read).map (put · draft))
    (printed : ∀ given, value = some given →
      (toJson given).node ≠ .null ∧ read (toJson given).node = .ok given) (rest : Members) :
    shape.takeAll room draft (RecordDocument.optionalMember key toJson value ++ rest) =
      shape.takeAll room (put value draft) rest := by
  cases value with
  | none =>
      rw [empty]
      rfl
  | some given =>
      rcases printed given rfl with ⟨present, succeeds⟩
      apply RecordShape.takeAll_cons
      rw [takes, readOptional_node present succeeds]
      rfl

theorem printed_string (text : String) :
    (Json.string text).node ≠ .null ∧ (Json.string text).node.readString = .ok text :=
  ⟨nofun, readString_node text⟩

theorem printed_id {id : Int} (signed : IsSigned id) :
    (number (.integer id)).node ≠ .null ∧ (number (.integer id)).node.readSigned = .ok id :=
  ⟨nofun, readSigned_node signed⟩

/-! ## Records -/

namespace RecordDocument

theorem isSigned_of_readSigned {node : Node} {value : Int}
    (succeeds : node.readSigned = .ok value) : IsSigned value := by
  cases node with
  | number numeral =>
      simp only [Node.readSigned, bind_eq_ok_iff] at succeeds
      rcases succeeds with ⟨number, -, kept⟩
      cases number with
      | integer given =>
          dsimp only at kept
          split at kept
          · rename_i signed
            rcases Except.ok.inj kept with rfl
            exact signed
          · contradiction
      | real given => contradiction
  | _ =>
      simp only [Node.readSigned, Node.refuse, bind_eq_ok_iff] at succeeds
      rcases succeeds with ⟨_, -, refused⟩
      contradiction

theorem isSigned_of_take {room : Nat} {field : String} {node : Node} {before behind : RecordDraft}
    (taken : before.take room field node = .ok behind)
    (signed : ∀ id, before.transactionRecordId = some id → IsSigned id) :
    ∀ id, behind.transactionRecordId = some id → IsSigned id := by
  unfold RecordDraft.take at taken
  split at taken
  case h_1 =>
    rcases bind_eq_ok_iff.mp taken with ⟨read, given, made⟩
    rcases Except.ok.inj made with rfl
    intro id present
    rw [show read = some id from present] at given
    exact isSigned_of_readSigned (read_of_readOptional given)
  case h_7 =>
    rcases Except.ok.inj taken with rfl
    exact signed
  all_goals
    rcases bind_eq_ok_iff.mp taken with ⟨value, -, made⟩
    rcases Except.ok.inj made with rfl
    exact signed

theorem transactionRecordId_of_finish {draft : RecordDraft} {document : RecordDocument}
    (finished : draft.finish = .ok document) :
    document.transactionRecordId = draft.transactionRecordId := by
  unfold RecordDraft.finish at finished
  split at finished
  case h_4 =>
    rcases Except.ok.inj finished with rfl
    rfl
  all_goals contradiction

theorem isSigned_of_read {node : Node} {document : RecordDocument}
    (read : RecordDocument.read node = .ok document) :
    ∀ id, document.transactionRecordId = some id → IsSigned id := by
  have keeps (field : String) (node : Node) (before behind : RecordDraft)
      (taken : shape.take 126 field node before = .ok behind) := isSigned_of_take taken
  rcases RecordShape.of_read keeps nofun read with ⟨draft, signed, finished⟩
  rw [transactionRecordId_of_finish finished]
  exact signed

/-- The data has room beside the braces of the record. -/
theorem data_wellFormed_of_read {node : Node} {document : RecordDocument}
    (read : RecordDocument.read node = .ok document) :
    (object document.data).WellFormed 126 := by
  rcases data_of_read read with none | ⟨node, read⟩
  · rw [none]
    exact ⟨by decide, List.Pairwise.nil, trivial⟩
  · exact wellFormed_of_readObject read

section Taking

variable (draft : RecordDraft) (text : String)

theorem take_uniqueId : shape.take 126 "uniqueId" (string text).node draft =
    .ok { draft with uniqueId := some text } := by
  simp [shape, RecordDraft.take]

theorem take_eventTimestamp : shape.take 126 "eventTimestamp" (string text).node draft =
    .ok { draft with eventTimestamp := some text } := by
  simp [shape, RecordDraft.take]

theorem take_eventType : shape.take 126 "eventType" (string text).node draft =
    .ok { draft with eventType := some text } := by
  simp [shape, RecordDraft.take]

end Taking

theorem read_node {document : RecordDocument}
    (signed : ∀ id, document.transactionRecordId = some id → IsSigned id)
    (wellFormed : (object document.data).WellFormed 126)
    (readable : (object document.data).EveryNumber Number.Readable) :
    RecordDocument.read document.toJson.node = .ok document := by
  rcases document with ⟨id, uniqueId, insertTime, eventTime, eventType, data⟩
  have takeData (draft : RecordDraft) :
      shape.take 126 "data" (object data).node draft = .ok { draft with data } := by
    simp [shape, RecordDraft.take, readObject_node wellFormed readable]
  have finished : shape.finish ⟨id, some uniqueId, insertTime, some eventTime, some eventType, data⟩ =
      .ok ⟨id, uniqueId, insertTime, eventTime, eventType, data⟩ := rfl
  refine RecordShape.read_object (by decide) ?_ ?_ finished
  · simp only [List.map_append, List.map_cons, List.map_nil]
    exact ((sublist_optionalMember ..).append ((sublist_optionalMember ..).cons_cons _)).append
      (List.Sublist.refl _)
  · rw [List.append_assoc, List.cons_append]
    rw [takeAll_optionalMember (fun id draft => { draft with transactionRecordId := id }) rfl
      (fun _ => rfl) (fun given present => printed_id (signed given present))]
    rw [RecordShape.takeAll_cons (take_uniqueId _ uniqueId)]
    rw [takeAll_optionalMember (fun time draft => { draft with insertTimestamp := time }) rfl
      (fun _ => rfl) (fun given _ => printed_string given)]
    rw [RecordShape.takeAll_cons (take_eventTimestamp _ eventTime),
      RecordShape.takeAll_cons (take_eventType _ eventType), RecordShape.takeAll_cons (takeData _)]
    rfl

end RecordDocument

/-! ## Searches -/

theorem RangeDocument.read_node (room : Nat) (range : RangeDocument) :
    shape.read (room + 1) range.toJson.node = .ok range := by
  rcases range with ⟨earliest, latest⟩
  have finished : shape.finish ⟨earliest, latest⟩ = .ok ⟨earliest, latest⟩ := rfl
  refine RecordShape.read_object (by decide) ?_ ?_ finished
  · rw [List.map_append]
    exact (sublist_optionalMember ..).append (sublist_optionalMember ..)
  · rw [takeAll_optionalMember (fun earliest draft => { draft with earliest }) rfl (fun _ => rfl)
      (fun given _ => printed_string given)]
    rw [← List.append_nil (RecordDocument.optionalMember "to" _ _),
      takeAll_optionalMember (fun latest draft => { draft with latest }) rfl (fun _ => rfl)
      (fun given _ => printed_string given)]
    rfl

namespace SearchDocument

theorem read_node {document : SearchDocument}
    (wellFormed : ∀ draft, document.dataQueryExpression = some draft →
      draft.toJson.WellFormed 126)
    (readable : ∀ draft, document.dataQueryExpression = some draft →
      draft.toJson.EveryNumber Number.Readable) :
    SearchDocument.read document.toJson.node = .ok document := by
  rcases document with ⟨fragment, types, eventTime, insertTime, expression⟩
  have finished : shape.finish ⟨fragment, types, eventTime, insertTime, expression⟩ =
      .ok ⟨fragment, types, eventTime, insertTime, expression⟩ := rfl
  have printedRange (range : RangeDocument) : range.toJson.node ≠ .null ∧
      RangeDocument.shape.read 126 range.toJson.node = .ok range :=
    ⟨nofun, range.read_node 125⟩
  have printedTypes (types : List String) : (array (types.map string)).node ≠ .null ∧
      (array (types.map string)).node.readList 126 Node.readString = .ok types :=
    ⟨nofun, readList_node 125 types⟩
  have printedDraft (draft : Draft) (given : expression = some draft) :
      draft.toJson.node ≠ .null ∧ Draft.read 126 draft.toJson.node = .ok draft := by
    refine ⟨?_, Draft.read_node (by decide) (wellFormed draft given) (readable draft given)⟩
    cases draft <;> nofun
  refine RecordShape.read_object (by decide) ?_ ?_ finished
  · simp only [List.map_append]
    exact ((((sublist_optionalMember ..).append (sublist_optionalMember ..)).append
      (sublist_optionalMember ..)).append (sublist_optionalMember ..)).append
      (sublist_optionalMember ..)
  · simp only [List.append_assoc]
    rw [takeAll_optionalMember (fun fragment draft => { draft with uniqueIdLike := fragment }) rfl
      (fun _ => rfl) (fun given _ => printed_string given)]
    rw [takeAll_optionalMember (fun types draft => { draft with eventTypes := types }) rfl
      (fun _ => rfl) (fun given _ => printedTypes given)]
    rw [takeAll_optionalMember (fun range draft => { draft with eventTimestamp := range }) rfl
      (fun _ => rfl) (fun given _ => printedRange given)]
    rw [takeAll_optionalMember (fun range draft => { draft with insertTimestamp := range }) rfl
      (fun _ => rfl) (fun given _ => printedRange given)]
    rw [← List.append_nil (RecordDocument.optionalMember "dataQueryExpression" _ _),
      takeAll_optionalMember (fun stated draft => { draft with dataQueryExpression := stated }) rfl
      (fun _ => rfl) printedDraft]
    rfl

/-- Only the field of the expression changes the expression. -/
theorem wellFormed_of_take {field : String} {node : Node} {before behind : SearchDocument}
    (taken : before.take 126 field node = .ok behind)
    (wellFormed : ∀ draft, before.dataQueryExpression = some draft →
      draft.toJson.WellFormed 126) :
    ∀ draft, behind.dataQueryExpression = some draft → draft.toJson.WellFormed 126 := by
  unfold take at taken
  split at taken
  case h_5 =>
    rcases bind_eq_ok_iff.mp taken with ⟨read, given, made⟩
    rcases Except.ok.inj made with rfl
    intro draft present
    rw [show read = some draft from present] at given
    exact Draft.wellFormed_of_read (by decide) (read_of_readOptional given)
  case h_6 =>
    rcases Except.ok.inj taken with rfl
    exact wellFormed
  all_goals
    rcases bind_eq_ok_iff.mp taken with ⟨value, -, made⟩
    rcases Except.ok.inj made with rfl
    exact wellFormed

theorem wellFormed_of_read {node : Node} {document : SearchDocument}
    (read : SearchDocument.read node = .ok document) :
    ∀ draft, document.dataQueryExpression = some draft → draft.toJson.WellFormed 126 := by
  have keeps (field : String) (node : Node) (before behind : SearchDocument)
      (taken : shape.take 126 field node before = .ok behind) := wellFormed_of_take taken
  rcases RecordShape.of_read keeps nofun read with ⟨draft, wellFormed, finished⟩
  rcases Except.ok.inj finished with rfl
  exact wellFormed

end SearchDocument

/-! ## Reading back -/

/-- Reads a text and prints what it holds. -/
def reprint {α : Type} (parse : String → Reading α) (render : α → String) (text : String) :
    Reading String :=
  (parse text).map render

/-- What is read from a text is read back after it is printed, and what has been reprinted once
stays as it is. -/
def ReadsBack {α : Type} (parse : String → Reading α) (render : α → String) (value : α) : Prop :=
  parse (render value) = .ok value ∧
    ∀ text, parse text = .ok value →
      reprint parse render text = .ok (render value) ∧
        reprint parse render (render value) = .ok (render value)

theorem readsBack_of_parse {α : Type} {parse : String → Reading α} {render : α → String}
    {value : α} (parsed : parse (render value) = .ok value) : ReadsBack parse render value := by
  refine ⟨parsed, ?_⟩
  intro text given
  unfold reprint
  rw [given, parsed]
  exact ⟨rfl, rfl⟩

theorem readable_of_whole {value : Json} (whole : value.EveryNumber IsWholeNumber) :
    value.EveryNumber Number.Readable :=
  EveryNumber.imp (fun _ => readable_of_isWholeNumber) value whole

theorem RecordDocument.readsBack {text : String} {document : RecordDocument}
    (parsed : parse text = .ok document) (whole : document.toJson.EveryNumber IsWholeNumber) :
    ReadsBack parse render document := by
  have read : RecordDocument.read (Document.ofText text).root = .ok document :=
    read_of_readAll parsed
  have data : ("data", object document.data) ∈ optionalMember "transactionRecordId"
      (fun id => .number (.integer id)) document.transactionRecordId ++
        ("uniqueId", .string document.uniqueId) ::
          optionalMember "insertTimestamp" .string document.insertTimestamp ++
        [("eventTimestamp", .string document.eventTimestamp),
          ("eventType", .string document.eventType), ("data", .object document.data)] := by
    simp
  have readable := readable_of_whole (everyMemberNumber_iff.mp whole _ data)
  apply readsBack_of_parse
  apply readAll_render
  exact read_node (isSigned_of_read read) (data_wellFormed_of_read read) readable

theorem SearchDocument.readsBack {text : String} {document : SearchDocument}
    (parsed : parse text = .ok document) (whole : document.toJson.EveryNumber IsWholeNumber) :
    ReadsBack parse render document := by
  have read : SearchDocument.read (Document.ofText text).root = .ok document :=
    read_of_readAll parsed
  have readable (draft : Draft) (given : document.dataQueryExpression = some draft) :
      draft.toJson.EveryNumber Number.Readable := by
    have member : ("dataQueryExpression", draft.toJson) ∈ RecordDocument.optionalMember
        "dataQueryExpression" Draft.toJson document.dataQueryExpression := by
      rw [given]
      exact List.mem_singleton_self _
    exact readable_of_whole (everyMemberNumber_iff.mp whole _ (List.mem_append_right _ member))
  apply readsBack_of_parse
  apply readAll_render
  exact read_node (wellFormed_of_read read) readable

theorem readsBack_draft {text : String} {draft : Draft} (parsed : Draft.parse text = .ok draft)
    (whole : draft.toJson.EveryNumber IsWholeNumber) :
    ReadsBack Draft.parse Draft.render draft := by
  have wellFormed := Draft.wellFormed_of_read (Nat.le_refl _) (read_of_readAll parsed)
  apply readsBack_of_parse
  apply readAll_render
  exact Draft.read_node (Nat.le_refl _) wellFormed (readable_of_whole whole)

/-- A printed combination is never read as a comparison, nor a printed comparison as a combination,
whatever numbers they hold and however deep they are nested. -/
theorem forms_apart {lhs rhs : Draft} {operator field other : String} {value : Json} :
    Draft.parse (Draft.combination lhs operator rhs).render ≠ .ok (.comparison field other value) ∧
      Draft.parse (Draft.comparison field other value).render ≠
        .ok (.combination lhs operator rhs) := by
  have stated {printed draft : Draft} (parsed : Draft.parse printed.render = .ok draft) :
      Draft.ofNode? printed.toJson.node = some draft := by
    have read := read_of_readAll parsed
    rw [Draft.render, ofText_render] at read
    simp only [Draft.read, bind_eq_ok_iff] at read
    rcases read with ⟨_, -, found⟩
    split at found
    · rename_i known
      rw [known, Except.ok.inj found]
    · contradiction
  constructor
  · intro parsed
    exact Draft.ofNode?_combination_ne lhs rhs operator field other value (stated parsed)
  · intro parsed
    exact Draft.ofNode?_comparison_ne field other value lhs rhs operator (stated parsed)

/-- Every record, search and draft that is read from a text, and whose numbers are whole, is read
back after it is printed, so parsing and printing again changes nothing. A printed combination is
not taken for a comparison, nor the reverse. -/
theorem documents_read_back (text : String) :
    (∀ document, RecordDocument.parse text = .ok document →
        document.toJson.EveryNumber IsWholeNumber →
          ReadsBack RecordDocument.parse RecordDocument.render document) ∧
      (∀ document, SearchDocument.parse text = .ok document →
        document.toJson.EveryNumber IsWholeNumber →
          ReadsBack SearchDocument.parse SearchDocument.render document) ∧
      (∀ draft, Draft.parse text = .ok draft → draft.toJson.EveryNumber IsWholeNumber →
        ReadsBack Draft.parse Draft.render draft) ∧
      ∀ lhs operator rhs field other value,
        Draft.parse (Draft.combination lhs operator rhs).render ≠
            .ok (.comparison field other value) ∧
          Draft.parse (Draft.comparison field other value).render ≠
            .ok (.combination lhs operator rhs) :=
  ⟨fun _ => RecordDocument.readsBack, fun _ => SearchDocument.readsBack, fun _ => readsBack_draft,
    fun _ _ _ _ _ _ => forms_apart⟩

/-! ## Examples -/

/-- A record as an array, without an insert time. -/
def arrayText : String :=
  "[7,\"tx-1\",null,\"2024-01-01\",\"payment\",\x7b\"amount\":5\x7d]"

def arrayRecord : RecordDocument where
  transactionRecordId := some 7
  uniqueId := "tx-1"
  insertTimestamp := none
  eventTimestamp := "2024-01-01"
  eventType := "payment"
  data := [("amount", .number (.integer 5))]

/-- A search that gives a null for one part and leaves out others. -/
def searchText : String :=
  "\x7b\"uniqueIdLike\":null,\"eventTypes\":[\"payment\"],\"insertTimestamp\":\x7b\"to\":\"2024\"\x7d\x7d"

def untilSearch : SearchDocument where
  eventTypes := some ["payment"]
  insertTimestamp := some ⟨none, some "2024"⟩

/-- A combination that brings a field and a value as well, as a comparison would. -/
def mixedText : String :=
  "\x7b\"field\":\"a\",\"value\":1,\"operator\":\"AND\",\"lhs\":" ++ sideText ++ ",\"rhs\":" ++
    sideText ++ "\x7d"
where
  sideText : String := "\x7b\"field\":\"a\",\"operator\":\"=\"\x7d"

def mixedDraft : Draft :=
  .combination side "AND" side
where
  side : Draft := .comparison "a" "=" .null

theorem documents_read_back_sample :
    RecordDocument.parse arrayText = .ok arrayRecord ∧
      arrayRecord.toJson.EveryNumber IsWholeNumber ∧
      RecordDocument.parse arrayRecord.render = .ok arrayRecord ∧
      SearchDocument.parse searchText = .ok untilSearch ∧
      untilSearch.toJson.EveryNumber IsWholeNumber ∧
      SearchDocument.parse untilSearch.render = .ok untilSearch ∧
      Draft.parse mixedText = .ok mixedDraft ∧ mixedDraft.toJson.EveryNumber IsWholeNumber ∧
      Draft.parse mixedDraft.render = .ok mixedDraft := by
  have record : RecordDocument.parse arrayText = .ok arrayRecord := by cbv
  have recordWhole : arrayRecord.toJson.EveryNumber IsWholeNumber := by
    simp [arrayRecord, RecordDocument.toJson, RecordDocument.optionalMember, EveryNumber,
      everyMemberNumber, IsWholeNumber, IsInteger]
  have search : SearchDocument.parse searchText = .ok untilSearch := by cbv
  have searchWhole : untilSearch.toJson.EveryNumber IsWholeNumber := by
    simp [untilSearch, SearchDocument.toJson, RecordDocument.optionalMember, RangeDocument.toJson,
      EveryNumber, everyMemberNumber, everyItemNumber]
  have draft : Draft.parse mixedText = .ok mixedDraft := by cbv
  have draftWhole : mixedDraft.toJson.EveryNumber IsWholeNumber := by
    simp [mixedDraft, mixedDraft.side, Draft.toJson, EveryNumber, everyMemberNumber]
  exact ⟨record, recordWhole, ((documents_read_back arrayText).1 _ record recordWhole).1, search,
    searchWhole, ((documents_read_back searchText).2.1 _ search searchWhole).1, draft, draftWhole,
    ((documents_read_back mixedText).2.2.1 _ draft draftWhole).1⟩

end TransactionLedger.Record
