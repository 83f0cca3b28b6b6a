import TransactionLedger.Proofs.Record.Conversion
import TransactionLedger.Proofs.Record.Ledger
import TransactionLedger.Proofs.Timestamp.Order

/-!
# Searches for the time of an event

A search for a range of event times compares stored times as texts. Among events and bounds in the
years that are written with four digits it finds the records whose events lie within the bounds. An
event in any other year comes before all those bounds, so it is found by every search without an
earliest bound and by no other.
-/

namespace TransactionLedger

open TransactionLedger.Filter Query Sql Timestamp

namespace Query.TimeRange

/-- The instant lies within the bounds. -/
def Admits (range : TimeRange) (instant : Instant) : Prop :=
  (∀ earliest ∈ range.earliest, earliest ≤ instant) ∧ ∀ latest ∈ range.latest, instant ≤ latest

/-- The text of a time lies within the texts of the bounds. -/
def AdmitsText (range : TimeRange) (text : String) : Prop :=
  (∀ earliest ∈ range.earliest, earliest.stored ≤ text) ∧
    ∀ latest ∈ range.latest, text ≤ latest.stored

instance (range : TimeRange) (instant : Instant) : Decidable (range.Admits instant) :=
  inferInstanceAs (Decidable (_ ∧ _))

instance (range : TimeRange) (text : String) : Decidable (range.AdmitsText text) :=
  inferInstanceAs (Decidable (_ ∧ _))

/-- The bounds lie in years that are written with four digits. -/
def InFourDigitYears (range : TimeRange) : Prop :=
  (∀ earliest ∈ range.earliest, earliest.InFourDigitYear) ∧
    ∀ latest ∈ range.latest, latest.InFourDigitYear

instance (range : TimeRange) : Decidable range.InFourDigitYears :=
  inferInstanceAs (Decidable (_ ∧ _))

/-- What such bounds find: the events within them, and those in all other years unless there is an
earliest bound. -/
def Finds (range : TimeRange) (event : Instant) : Prop :=
  if event.InFourDigitYear then range.Admits event else range.earliest = none

instance (range : TimeRange) (event : Instant) : Decidable (range.Finds event) :=
  inferInstanceAs (Decidable (ite _ _ _))

/-- The instants are valid and cut to milliseconds, as those are that are read. -/
def Exact (instants : Option Instant) : Prop :=
  ∀ instant ∈ instants, instant.Valid ∧ instant.truncate = instant

theorem admitsText_stored_iff {range : TimeRange} {event : Instant}
    (inYears : range.InFourDigitYears) (earliestExact : Exact range.earliest)
    (latestExact : Exact range.latest) (eventExact : Exact (some event)) :
    range.AdmitsText event.stored ↔ range.Finds event := by
  rcases eventExact event rfl with ⟨valid, whole⟩
  by_cases inYear : event.InFourDigitYear
  · rw [Finds, if_pos inYear]
    refine and_congr (forall₂_congr fun earliest present => ?_)
      (forall₂_congr fun latest present => ?_)
    · rcases earliestExact earliest present with ⟨boundValid, boundWhole⟩
      have boundInYear := inYears.1 earliest present
      rw [Instant.stored_le_iff boundValid valid boundInYear inYear, ← boundInYear.truncate_eq,
        ← inYear.truncate_eq, boundWhole, whole]
    · rcases latestExact latest present with ⟨boundValid, boundWhole⟩
      have boundInYear := inYears.2 latest present
      rw [Instant.stored_le_iff valid boundValid inYear boundInYear, ← boundInYear.truncate_eq,
        ← inYear.truncate_eq, boundWhole, whole]
  · rw [Finds, if_neg inYear]
    constructor
    · rintro ⟨above, -⟩
      cases present : range.earliest with
      | none => rfl
      | some earliest =>
          have before := Instant.stored_lt_of_distant inYear (inYears.1 earliest present)
          exact absurd before (String.not_lt.mpr (above earliest present))
    · intro absent
      refine ⟨by simp [absent], fun latest present => ?_⟩
      have before := Instant.stored_lt_of_distant inYear (inYears.2 latest present)
      exact String.not_lt.mp (String.lt_asymm before)

end Query.TimeRange

/-! ## The filter of a range -/

namespace Filter

theorem atLeast_text (text bound : String) :
    Relation.orderIn [.gt, .eq] (.text text) (.text bound) = decide (bound ≤ text) := by
  rw [Bool.eq_iff_iff, decide_eq_true_eq, ← String.not_lt]
  simp only [Relation.orderIn, Value.order?, Value.textOrder]
  split_ifs with less same <;> simp [less]

theorem atMost_text (text bound : String) :
    Relation.orderIn [.lt, .eq] (.text text) (.text bound) = decide (text ≤ bound) := by
  rw [Bool.eq_iff_iff, decide_eq_true_eq, ← String.not_lt]
  simp only [Relation.orderIn, Value.order?, Value.textOrder]
  split_ifs with less same
  · simp [String.lt_asymm less]
  · simp [same]
  · have more : bound < text := by
      by_contra notMore
      exact same (String.le_antisymm (String.not_lt.mp notMore) (String.not_lt.mp less))
    simp [more]

section Range

variable {range : TimeRange} {row : Column → Value} {text : String}

theorem placeholder_earliest {earliest : Instant} (present : range.earliest = some earliest) :
    (Scope.mk row (ofSearch { eventTime := some range }).bindings).placeholder "etsf" =
      .text earliest.stored := by
  rw [placeholder_bindings (nodup_names_ofSearch _), boundValue]
  simp [ofSearch, criteria, idCriterion, eventTypeCriterion, timeCriteria, timeBound, present,
    Value.ofBind]

theorem placeholder_latest {latest : Instant} (present : range.latest = some latest) :
    (Scope.mk row (ofSearch { eventTime := some range }).bindings).placeholder "etst" =
      .text latest.stored := by
  rw [placeholder_bindings (nodup_names_ofSearch _), boundValue]
  cases earliest : range.earliest <;>
    simp [ofSearch, criteria, idCriterion, eventTypeCriterion, timeCriteria, timeBound, present,
      earliest, expressionCriterion, List.lookup, Value.ofBind]

/-- Either bound of a range is a criterion of its own. -/
theorem accepts_ofRange (cell : row .eventTimestamp = .text text) :
    (ofSearch { eventTime := some range }).accepts row = .ok (decide (range.AdmitsText text)) := by
  have aboveEarliest : ∀ earliest ∈ range.earliest,
      (Condition.compare (.column .eventTimestamp) .atLeast (.placeholder "etsf")).holds
        ⟨row, (ofSearch { eventTime := some range }).bindings⟩ =
          .ok (decide (earliest.stored ≤ text)) := by
    intro earliest present
    simp only [Condition.holds, Operand.evaluate, cell, placeholder_earliest present, ok_bind,
      Relation.holds, atLeast_text]
  have belowLatest : ∀ latest ∈ range.latest,
      (Condition.compare (.column .eventTimestamp) .atMost (.placeholder "etst")).holds
        ⟨row, (ofSearch { eventTime := some range }).bindings⟩ =
          .ok (decide (text ≤ latest.stored)) := by
    intro latest present
    simp only [Condition.holds, Operand.evaluate, cell, placeholder_latest present, ok_bind,
      Relation.holds, atMost_text]
  rcases range with ⟨_ | earliest, _ | latest⟩
  · simp [TimeRange.AdmitsText]
    rfl
  · exact (belowLatest latest rfl).trans (by simp [TimeRange.AdmitsText])
  · exact (aboveEarliest earliest rfl).trans (by simp [TimeRange.AdmitsText])
  · have judged : (Condition.both
        (.compare (.column .eventTimestamp) .atLeast (.placeholder "etsf"))
        (.compare (.column .eventTimestamp) .atMost (.placeholder "etst"))).holds
          ⟨row, (ofSearch { eventTime := some ⟨some earliest, some latest⟩ }).bindings⟩ =
        .ok (decide (earliest.stored ≤ text) && decide (text ≤ latest.stored)) := by
      rw [Condition.holds, aboveEarliest earliest rfl, ok_bind, belowLatest latest rfl]
      cases decide (earliest.stored ≤ text) <;> rfl
    exact judged.trans (by simp [TimeRange.AdmitsText])

theorem checkLimits_ofRange (range : TimeRange) :
    (ofSearch { eventTime := some range }).checkLimits = .ok () := by
  rcases range with ⟨_ | earliest, _ | latest⟩ <;> rfl

end Range

end Filter

namespace Record

open Json Store

/-! ## The events in the table -/

/-- A record that has been created: its id and the instant of its event. -/
structure Creation where
  id : Int
  event : Instant
  deriving DecidableEq, Repr

/-- What a request has created, by its answer. The event is what the request states. -/
def Request.creation? : Request → Answer → Option Creation
  | create document _, .created (.ok record) =>
    match record.transactionRecordId, Instant.parse document.eventTimestamp with
    | some id, .ok event => some ⟨id, event⟩
    | _, _ => none
  | _, _ => none

/-- What requests have created, by their answers. -/
def creations (requests : List Request) (answers : List Answer) : List Creation :=
  (requests.zip answers).filterMap fun (request, answer) => request.creation? answer

/-- The row can be read, and holds the id and the event of the creation. -/
structure Creation.StoredIn (creation : Creation) (row : Row) : Prop where
  id : row.id = creation.id
  event : row.cells.eventTimestamp = .text creation.event.stored
  decodes : ∃ entry, row.entry = .ok entry

/-- The rows of the database hold the creations of the log, one after the other. -/
def Dates (database : Database) (log : List Creation) : Prop :=
  ∃ table, database.table = .ok table ∧ List.Forall₂ Creation.StoredIn log table.rows

/-- The row of a record that was read from a document can be read. -/
theorem exists_entry_newCells (id : Int) (uniqueId eventType : String) {eventTime now : Instant}
    {document : RecordDocument} {text : String} (parsed : RecordDocument.parse text = .ok document)
    (eventValid : eventTime.Valid) (nowValid : now.Valid) :
    ∃ entry, Row.entry ⟨id, newCells uniqueId eventTime eventType document.data now⟩ =
      .ok entry := by
  exact ⟨_, entry_newCells_of_legible id uniqueId eventType
    (RecordDocument.wellFormed_of_parse parsed) (RecordDocument.legible_of_parse parsed) eventValid
    nowValid⟩

/-- A creation that succeeds adds its event to the log; one that fails leaves the log as it is. -/
theorem Dates.create {database : Database} {log : List Creation} {document : RecordDocument}
    {now : Instant} (dates : Dates database log) (sound : (Request.create document now).Sound) :
    Dates (create document now database).2 (log ++ ((Request.create document now).creation?
      (.created (create document now database).1)).toList) := by
  rcases dates with ⟨table, reached, stored⟩
  rcases sound with ⟨⟨text, documentParsed⟩, nowValid⟩
  have unchanged : Dates database (log ++ []) := by
    rw [List.append_nil]
    exact ⟨table, reached, stored⟩
  unfold Record.create
  split
  · exact unchanged
  · rename_i eventTime timeRead
    have parsed := mapError_eq_ok_iff.mp timeRead
    have eventValid := (Instant.valid_of_parse parsed).1
    rcases append_cases reached
      (newCells document.uniqueId eventTime document.eventType document.data now) with
      ⟨error, failed⟩ | ⟨id, behind, after, added, afterReached, rows, -⟩
    · simp only [append, failed]
      exact unchanged
    · simp only [append, added]
      have decodes := exists_entry_newCells id document.uniqueId document.eventType documentParsed
        eventValid nowValid
      have created : (Request.create document now).creation?
          (.created (.ok (document.created id eventTime))) = some ⟨id, eventTime⟩ := by
        simp [Request.creation?, RecordDocument.created, parsed]
      refine ⟨behind, afterReached, ?_⟩
      rw [rows, created]
      exact List.rel_append stored (.cons ⟨rfl, rfl, decodes⟩ .nil)

theorem dates_run {requests : List Request} {database : Database} {log : List Creation}
    (dates : Dates database log) (sound : ∀ request ∈ requests, request.Sound) :
    Dates (run requests database).2 (log ++ creations requests (run requests database).1) := by
  induction requests generalizing database log with
  | nil => simpa [run, creations] using dates
  | cons request rest ih =>
      rcases List.forall_mem_cons.mp sound with ⟨first, others⟩
      have next : Dates (request.perform database).2
          (log ++ (request.creation? (request.perform database).1).toList) := by
        cases request with
        | create document now => exact dates.create first
        | history id => simpa [Request.perform, Request.creation?] using dates
        | search document => simpa [Request.perform, Request.creation?] using dates
      have later := ih next others
      rw [List.append_assoc] at later
      have split : creations (request :: rest) (run (request :: rest) database).1 =
          (request.creation? (request.perform database).1).toList ++
            creations rest (run rest (request.perform database).2).1 := by
        cases found : request.creation? (request.perform database).1 <;>
          simp [run, creations, found]
      rw [split]
      exact later

/-! ## What a range finds -/

theorem forall_stored {property : Row → Prop} {log : List Creation} {rows : List Row}
    (stored : List.Forall₂ Creation.StoredIn log rows)
    (each : ∀ (creation : Creation) row, creation.StoredIn row → property row) :
    ∀ row ∈ rows, property row := by
  induction stored with
  | nil => simp
  | cons here _ ih => exact List.forall_mem_cons.mpr ⟨each _ _ here, ih⟩

/-- Rows that are judged by their events are those of the events that pass. -/
theorem map_id_filter {log : List Creation} {rows : List Row} {keep : Row → Bool}
    {kept : Creation → Bool} (stored : List.Forall₂ Creation.StoredIn log rows)
    (alike : ∀ (creation : Creation) row, creation.StoredIn row → keep row = kept creation) :
    (rows.filter keep).map Row.id = (log.filter kept).map Creation.id := by
  induction stored with
  | nil => rfl
  | @cons creation row _ _ here _ ih =>
      rw [List.filter_cons, List.filter_cons, alike creation row here]
      cases kept creation <;> simp [ih, here.id]

/-- A range finds the records whose stored times lie within the stored bounds. -/
theorem Dates.select {database : Database} {log : List Creation} (dates : Dates database log)
    (range : TimeRange) :
    ∃ entries, database.select (ofSearch { eventTime := some range }) = .ok entries ∧
      entries.map Entry.id =
        (log.filter fun creation => range.AdmitsText creation.event.stored).map Creation.id := by
  rcases dates with ⟨table, reached, stored⟩
  have judged : ∀ (creation : Creation) (row : Row), creation.StoredIn row →
      (ofSearch { eventTime := some range }).accepts row.value =
        .ok (decide (range.AdmitsText creation.event.stored)) :=
    fun creation row here => accepts_ofRange (by rw [Row.value, here.event]; rfl)
  have readable : ∀ row ∈ table.rows.filter fun row =>
      (ofSearch { eventTime := some range }).passes row.value, ∃ entry, row.entry = .ok entry :=
    fun row inside => forall_stored stored (fun _ _ here => here.decodes) row
      (List.mem_of_mem_filter inside)
  rcases exists_mapM_of_forall readable with ⟨entries, walked⟩
  refine ⟨entries, ?_, ?_⟩
  · rw [Database.select_of_table reached (checkLimits_ofRange range), Table.select_eq_ok_iff]
    have passes : ∀ row ∈ table.rows, (ofSearch { eventTime := some range }).accepts row.value =
        .ok ((ofSearch { eventTime := some range }).passes row.value) := by
      refine forall_stored stored fun creation row here => ?_
      rw [passes_of_accepts (judged creation row here), judged creation row here]
    exact ⟨fun row looked => passes row (List.mem_of_mem_filter looked), walked⟩
  · rw [mapM_map_eq Row.id Entry.id walked fun row entry decoded => (Row.of_entry decoded).1]
    exact map_id_filter stored fun creation row here => passes_of_accepts (judged creation row here)

theorem StatesBound.exact {text? : Option String} {bound : Option Instant}
    (stated : StatesBound text? bound) : TimeRange.Exact bound := by
  cases stated with
  | none => simp [TimeRange.Exact]
  | some read => simpa [TimeRange.Exact] using Instant.valid_of_parse read

theorem exact_of_readRange {field : String} {document : RangeDocument} {range : TimeRange}
    (read : readRange field (some document) = .ok (some range)) :
    TimeRange.Exact range.earliest ∧ TimeRange.Exact range.latest := by
  rcases readRange_eq_ok_iff.mp read with ⟨stated⟩
  exact ⟨stated.earliest.exact, stated.latest.exact⟩

theorem exact_of_mem_creations {requests : List Request} {answers : List Answer}
    {creation : Creation} (inside : creation ∈ creations requests answers) :
    TimeRange.Exact (some creation.event) := by
  rcases List.mem_filterMap.mp inside with ⟨⟨request, answer⟩, -, created⟩
  simp only [Request.creation?] at created
  split at created
  · split at created
    · rename_i parsed
      rcases Option.some.inj created with rfl
      simpa [TimeRange.Exact] using Instant.valid_of_parse parsed
    · contradiction
  · contradiction

/-- After any creations on a table that was empty, a search for a range of event times succeeds. It
finds the records whose stored times lie within the stored bounds. For bounds in the years that are
written with four digits these are the events of such years within the bounds, in the chronological
order; and without an earliest bound also the events of all other years. -/
theorem search_range {requests : List Request} {database : Database} {table : Table}
    {document : RangeDocument} {range : TimeRange} (reached : database.table = .ok table)
    (empty : table.rows = []) (sound : ∀ request ∈ requests, request.Sound)
    (read : readRange "eventTimestamp" (some document) = .ok (some range)) :
    ∃ found, search { eventTimestamp := some document } (run requests database).2 = .ok found ∧
      found.map RecordDocument.transactionRecordId =
        ((creations requests (run requests database).1).filter fun creation =>
          range.AdmitsText creation.event.stored).map (some ·.id) ∧
      (range.InFourDigitYears → found.map RecordDocument.transactionRecordId =
        ((creations requests (run requests database).1).filter fun creation =>
          range.Finds creation.event).map (some ·.id)) := by
  have start : Dates database [] := ⟨table, reached, by simp [empty]⟩
  have dates := dates_run start sound
  rw [List.nil_append] at dates
  rcases dates.select range with ⟨entries, selected, ids⟩
  have converted : SearchDocument.toSearch { eventTimestamp := some document } =
      .ok { eventTime := some range } := by
    simp only [SearchDocument.toSearch, read, ok_bind]
    rfl
  have searched : search { eventTimestamp := some document } (run requests database).2 =
      .ok (entries.map RecordDocument.ofEntry) := by
    simp [search, converted, documents, selected, Except.mapError]
  have found : (entries.map RecordDocument.ofEntry).map RecordDocument.transactionRecordId =
      ((creations requests (run requests database).1).filter fun creation =>
        range.AdmitsText creation.event.stored).map (some ·.id) := by
    have wrapped := congrArg (List.map some) ids
    simpa [List.map_map, Function.comp_def, RecordDocument.ofEntry] using wrapped
  refine ⟨_, searched, found, fun inYears => ?_⟩
  rw [found]
  congr 1
  refine List.filter_congr fun creation inside => ?_
  rcases exact_of_readRange read with ⟨earliestExact, latestExact⟩
  rw [decide_eq_decide]
  exact TimeRange.admitsText_stored_iff inYears earliestExact latestExact
    (exact_of_mem_creations inside)

/-! ## Examples -/

/-- A payment at a stated time. -/
def paymentAt (eventTimestamp : String) : RecordDocument :=
  { samplePayment with eventTimestamp }

/-- Payments before and at the turn of a year. -/
def timedRequests : List Request :=
  ["2023-12-31T23:59:59.999Z", "2024-01-01"].map fun time =>
    .create (paymentAt time) ⟨1704164645, 0⟩

theorem search_timedRequests : ∃ found,
    search { eventTimestamp := some { earliest := some "2024-01-01" } }
        (run timedRequests emptyLedger).2 = .ok found ∧
      found.map RecordDocument.transactionRecordId = [some 2] := by
  have reached : emptyLedger.table = .ok .empty := rfl
  have read : readRange "eventTimestamp" (some { earliest := some "2024-01-01" }) =
      .ok (some ⟨some ⟨1704067200, 0⟩, none⟩) := by
    cbv
  have sound : ∀ request ∈ timedRequests, request.Sound := by
    simp only [timedRequests, List.map_cons, List.map_nil, List.forall_mem_cons]
    have read (time : String) (parsed : RecordDocument.parse (paymentAt time).render =
        .ok (paymentAt time)) : (Request.create (paymentAt time) ⟨1704164645, 0⟩).Sound :=
      ⟨⟨_, parsed⟩, by decide⟩
    exact ⟨read _ (by cbv), read _ (by cbv), by simp⟩
  have created : creations timedRequests (run timedRequests emptyLedger).1 =
      [⟨1, ⟨1704067199, 999000000⟩⟩, ⟨2, ⟨1704067200, 0⟩⟩] := by
    cbv
  rcases search_range reached rfl sound read with ⟨found, searched, -, ids⟩
  refine ⟨found, searched, ?_⟩
  rw [ids (by decide), created]
  cbv

def distantRequests : List Request :=
  [.create (paymentAt "+12024-01-01") ⟨1704164645, 0⟩]

/-- A search from a time on misses an event in a later year of five digits. -/
theorem search_misses_distant : ∃ earliest event,
    readRange "eventTimestamp" (some { earliest := some "2024-01-01" }) =
        .ok (some ⟨some earliest, none⟩) ∧
      creations distantRequests (run distantRequests emptyLedger).1 = [⟨1, event⟩] ∧
      earliest ≤ event ∧
      search { eventTimestamp := some { earliest := some "2024-01-01" } }
        (run distantRequests emptyLedger).2 = .ok [] := by
  refine ⟨⟨1704067200, 0⟩, ⟨317273587200, 0⟩, ?_, ?_, by decide, ?_⟩ <;> cbv

end Record

end TransactionLedger
