import TransactionLedger.Proofs.Outcome
import TransactionLedger.Proofs.Timestamp.Unambiguous
import TransactionLedger.Record.SearchDocument

/-!
# Converting a search document

A search document may hold four bounds and a draft. Each of them that is present is read on its own,
and stands in the search where it stood in the document. A document is refused for its first part
that cannot be read, where the bounds come before the draft.
-/

namespace TransactionLedger.Record

open Query Timestamp

/-! ## Parts -/

/-- A part of a search document that has to be read. -/
inductive Part
  | bound (field text : String)
  | draft (draft : Draft)

namespace Part

/-- The part can be read. -/
inductive Sound : Part → Prop
  | bound {field text : String} {instant : Instant} (read : Instant.parse text = .ok instant) :
      Sound (.bound field text)
  | draft {draft : Draft} {expression : Expression} (checked : draft.check = .ok expression) :
      Sound (.draft draft)

/-- The part cannot be read. What is said of a bound names its field and shows its text. -/
inductive Fault : Part → RequestError → Prop
  | bound {field text : String} (unread : ∀ instant, Instant.parse text ≠ .ok instant) :
      Fault (.bound field text) (.timestamp field ⟨text⟩)
  | draft {draft : Draft} {error : QueryError} (refused : draft.check = .error error) :
      Fault (.draft draft) (.expression error)

/-- The parts that an optional bound consists of. -/
def ofBound (field : String) (text? : Option String) : List Part :=
  text?.toList.map (bound field)

/-- The parts that an optional draft consists of. -/
def ofDraft (draft? : Option Draft) : List Part :=
  draft?.toList.map draft

end Part

/-- The parts of a document that are present, in the order in which they are read. -/
def SearchDocument.parts (document : SearchDocument) : List Part :=
  Part.ofBound "eventTimestamp.from" (document.eventTimestamp.bind RangeDocument.earliest) ++
  Part.ofBound "eventTimestamp.to" (document.eventTimestamp.bind RangeDocument.latest) ++
  Part.ofBound "insertTimestamp.from" (document.insertTimestamp.bind RangeDocument.earliest) ++
  Part.ofBound "insertTimestamp.to" (document.insertTimestamp.bind RangeDocument.latest) ++
  Part.ofDraft document.dataQueryExpression

/-! ## What is stated -/

/-- The bound is present if its text is, and then is what the text is read as. -/
def StatesBound : Option String → Option Instant → Prop :=
  Option.Rel fun text instant => Instant.parse text = .ok instant

/-- Both bounds of a time stand in their places. -/
structure RangeDocument.States (range : RangeDocument) (time : TimeRange) : Prop where
  earliest : StatesBound range.earliest time.earliest
  latest : StatesBound range.latest time.latest

/-- The expression is present if its draft is, and then is what the draft is checked to. -/
def StatesExpression : Option Draft → Option Expression → Prop :=
  Option.Rel fun draft expression => draft.check = .ok expression

/-- Whatever stands in a document stands in the same place of the search. -/
structure SearchDocument.States (document : SearchDocument) (search : Search) : Prop where
  idFragment : search.idFragment = document.uniqueIdLike
  eventTypes : search.eventTypes = document.eventTypes
  eventTime : Option.Rel RangeDocument.States document.eventTimestamp search.eventTime
  insertTime : Option.Rel RangeDocument.States document.insertTimestamp search.insertTime
  expression : StatesExpression document.dataQueryExpression search.expression

/-! ## Bounds -/

section Bounds

variable {field : String} {text? : Option String}

theorem readInstant_eq_ok_iff {text : String} {instant : Instant} :
    readInstant field text = .ok instant ↔ Instant.parse text = .ok instant :=
  mapError_eq_ok_iff

theorem readInstant_eq_error_iff {text : String} {error : RequestError} :
    readInstant field text = .error error ↔ Part.Fault (.bound field text) error := by
  rw [readInstant, mapError_eq_error_iff]
  constructor
  · rintro ⟨failure, refused, rfl⟩
    rcases (Instant.parseBy_eq_error_iff.mp refused).1 with rfl
    exact .bound fun instant read => nomatch refused.symm.trans read
  · rintro (unread | -)
    cases parsed : Instant.parse text with
    | ok instant => exact absurd parsed (unread instant)
    | error failure =>
        rcases (Instant.parseBy_eq_error_iff.mp parsed).1 with rfl
        exact ⟨_, rfl, rfl⟩

theorem readBound_eq_mapM : readBound field text? = text?.mapM (readInstant field) := by
  cases text? <;> rfl

theorem readBound_eq_ok_iff {bound : Option Instant} :
    readBound field text? = .ok bound ↔ StatesBound text? bound := by
  rw [readBound_eq_mapM, optionMapM_eq_ok_iff]
  simp only [readInstant_eq_ok_iff, StatesBound]

theorem readBound_eq_error_iff {error : RequestError} :
    readBound field text? = .error error ↔
      FirstFault Part.Sound Part.Fault (Part.ofBound field text?) error := by
  rw [readBound_eq_mapM, optionMapM_eq_error_iff]
  cases text? <;> simp [Part.ofBound, readInstant_eq_error_iff]

theorem exists_statesBound_iff :
    (∃ bound, StatesBound text? bound) ↔ ∀ part ∈ Part.ofBound field text?, part.Sound := by
  simp only [StatesBound, exists_optionRel_iff, Part.ofBound, List.forall_mem_map,
    Option.mem_toList]
  refine forall₂_congr fun text present => ?_
  constructor
  · rintro ⟨instant, read⟩
    exact .bound read
  · rintro (⟨read⟩ | -)
    exact ⟨_, read⟩

end Bounds

/-! ## Ranges -/

section Ranges

variable {field : String} {range? : Option RangeDocument}

/-- The parts that an optional range consists of. -/
def Part.ofRange (field : String) (range? : Option RangeDocument) : List Part :=
  ofBound (field ++ ".from") (range?.bind RangeDocument.earliest) ++
    ofBound (field ++ ".to") (range?.bind RangeDocument.latest)

theorem readRange_eq_ok_iff {time? : Option TimeRange} :
    readRange field range? = .ok time? ↔ Option.Rel RangeDocument.States range? time? := by
  cases range? with
  | none =>
      constructor
      · rintro ⟨⟩
        exact .none
      · rintro ⟨⟩
        rfl
  | some range =>
      simp only [readRange, bind_eq_ok_iff, readBound_eq_ok_iff, pure_eq_ok, Except.ok.injEq]
      constructor
      · rintro ⟨earliest, earliestStated, latest, latestStated, rfl⟩
        exact .some ⟨earliestStated, latestStated⟩
      · rintro ⟨earliestStated, latestStated⟩
        exact ⟨_, earliestStated, _, latestStated, rfl⟩

theorem readRange_eq_error_iff {error : RequestError} :
    readRange field range? = .error error ↔
      FirstFault Part.Sound Part.Fault (Part.ofRange field range?) error := by
  cases range? with
  | none => simp [readRange, Part.ofRange, Part.ofBound]
  | some range =>
      rw [Part.ofRange, firstFault_append, ← exists_statesBound_iff]
      simp only [readRange, bind_eq_error_iff, readBound_eq_ok_iff, readBound_eq_error_iff,
        pure_eq_ok, reduceCtorEq, and_false, exists_false, or_false, exists_and_right,
        Option.bind_some]

theorem exists_statesRange_iff :
    (∃ time?, Option.Rel RangeDocument.States range? time?) ↔
      ∀ part ∈ Part.ofRange field range?, part.Sound := by
  simp only [exists_optionRel_iff, Part.ofRange, List.forall_mem_append, ← exists_statesBound_iff]
  cases range? with
  | none => simp [StatesBound, exists_optionRel_iff]
  | some range =>
      simp only [Option.mem_some_iff, forall_eq', Option.bind_some]
      constructor
      · rintro ⟨time, earliestStated, latestStated⟩
        exact ⟨⟨_, earliestStated⟩, _, latestStated⟩
      · rintro ⟨⟨earliest, earliestStated⟩, latest, latestStated⟩
        exact ⟨⟨earliest, latest⟩, earliestStated, latestStated⟩

end Ranges

/-! ## Expressions -/

section Expressions

variable {draft? : Option Draft}

theorem readExpression_eq_mapM :
    readExpression draft? = draft?.mapM fun draft => draft.check.mapError .expression := by
  cases draft? <;> rfl

theorem readExpression_eq_ok_iff {expression? : Option Expression} :
    readExpression draft? = .ok expression? ↔ StatesExpression draft? expression? := by
  rw [readExpression_eq_mapM, optionMapM_eq_ok_iff]
  simp only [mapError_eq_ok_iff, StatesExpression]

theorem checkError_eq_error_iff {draft : Draft} {error : RequestError} :
    draft.check.mapError .expression = .error error ↔ Part.Fault (.draft draft) error := by
  rw [mapError_eq_error_iff]
  constructor
  · rintro ⟨failure, refused, rfl⟩
    exact .draft refused
  · rintro (- | refused)
    exact ⟨_, refused, rfl⟩

theorem readExpression_eq_error_iff {error : RequestError} :
    readExpression draft? = .error error ↔
      FirstFault Part.Sound Part.Fault (Part.ofDraft draft?) error := by
  rw [readExpression_eq_mapM, optionMapM_eq_error_iff]
  cases draft? <;> simp [Part.ofDraft, checkError_eq_error_iff]

theorem exists_statesExpression_iff :
    (∃ expression?, StatesExpression draft? expression?) ↔
      ∀ part ∈ Part.ofDraft draft?, part.Sound := by
  simp only [StatesExpression, exists_optionRel_iff, Part.ofDraft, List.forall_mem_map,
    Option.mem_toList]
  refine forall₂_congr fun draft present => ?_
  constructor
  · rintro ⟨expression, checked⟩
    exact .draft checked
  · rintro (- | checked)
    exact ⟨_, checked⟩

end Expressions

/-! ## Search documents -/

namespace SearchDocument

variable {document : SearchDocument}

theorem parts_eq : document.parts =
    Part.ofRange "eventTimestamp" document.eventTimestamp ++
      (Part.ofRange "insertTimestamp" document.insertTimestamp ++
        Part.ofDraft document.dataQueryExpression) := by
  simp [parts, Part.ofRange]

theorem toSearch_eq_ok_iff {search : Search} :
    document.toSearch = .ok search ↔ document.States search := by
  simp only [toSearch, bind_eq_ok_iff, readRange_eq_ok_iff, readExpression_eq_ok_iff, pure_eq_ok,
    Except.ok.injEq]
  constructor
  · rintro ⟨eventTime, eventStated, insertTime, insertStated, expression, stated, rfl⟩
    exact ⟨rfl, rfl, eventStated, insertStated, stated⟩
  · rcases search with ⟨fragment, types, eventTime, insertTime, expression⟩
    rintro ⟨rfl, rfl, eventStated, insertStated, stated⟩
    exact ⟨_, eventStated, _, insertStated, _, stated, rfl⟩

theorem exists_states_iff : (∃ search, document.States search) ↔
    ∀ part ∈ document.parts, part.Sound := by
  rw [parts_eq, List.forall_mem_append, List.forall_mem_append, ← exists_statesRange_iff,
    ← exists_statesRange_iff, ← exists_statesExpression_iff]
  constructor
  · rintro ⟨search, stated⟩
    exact ⟨⟨_, stated.eventTime⟩, ⟨_, stated.insertTime⟩, _, stated.expression⟩
  · rintro ⟨⟨eventTime, eventStated⟩, ⟨insertTime, insertStated⟩, expression, stated⟩
    exact ⟨⟨_, _, eventTime, insertTime, expression⟩, rfl, rfl, eventStated, insertStated, stated⟩

theorem toSearch_eq_error_iff {error : RequestError} :
    document.toSearch = .error error ↔
      FirstFault Part.Sound Part.Fault document.parts error := by
  rw [parts_eq, firstFault_append, firstFault_append, ← exists_statesRange_iff,
    ← exists_statesRange_iff]
  simp only [toSearch, bind_eq_error_iff, readRange_eq_ok_iff, readRange_eq_error_iff,
    readExpression_eq_ok_iff, readExpression_eq_error_iff, pure_eq_ok, reduceCtorEq, and_false,
    exists_false, or_false, exists_and_right]

/-- A document is converted if every part of it can be read, and then everything stands in its place
in the search. Any other document is refused for its first part that cannot be read. -/
theorem toSearch_outcome (document : SearchDocument) :
    ((∃ search, document.toSearch = .ok search) ↔ ∀ part ∈ document.parts, part.Sound) ∧
      (∀ search, document.toSearch = .ok search ↔ document.States search) ∧
      ∀ error, document.toSearch = .error error ↔
        FirstFault Part.Sound Part.Fault document.parts error := by
  refine ⟨?_, fun search => toSearch_eq_ok_iff, fun error => toSearch_eq_error_iff⟩
  simp only [toSearch_eq_ok_iff, exists_states_iff]

/-- A bound is read before the draft, whose field is no path. -/
example :
    toSearch { insertTimestamp := some { latest := some "soon" },
               dataQueryExpression := some (.comparison "a b" "=" (.bool true)) } =
      .error (.timestamp "insertTimestamp.to" ⟨"soon"⟩) := by
  cbv

end SearchDocument

end TransactionLedger.Record
