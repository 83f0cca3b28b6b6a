import Mathlib
import TransactionLedger.Proofs.Outcome
import TransactionLedger.Proofs.Timestamp.WrittenForms
import TransactionLedger.Record.Operations

/-!
# Times that the ledger gives out

The ledger gives out the instants that it has read, each in the form that leaves the ledger. A
caller who sends such a text back is understood if the year has four digits, and refused otherwise.
-/

namespace TransactionLedger.Record

open Store Timestamp

/-- As the time of an event or as a bound, the text is understood as the instant in the years that
are written with four digits; in all others it is refused. -/
def ReadsAs (text : String) (instant : Instant) : Prop :=
  ∀ field, readInstant field text =
    if instant.InFourDigitYear then .ok instant else .error (.timestamp field ⟨text⟩)

theorem readsAs_iso {input : String} {instant : Instant} (read : Instant.parse input = .ok instant) :
    ReadsAs instant.iso instant := by
  intro field
  rcases Instant.valid_of_parse read with ⟨valid, whole⟩
  rw [readInstant, Instant.parse_iso valid, whole]
  split_ifs <;> rfl

/-- The times of a row that has an entry have been read from its texts. -/
theorem times_of_textRow_entry {row : TextRow} {entry : Entry} (decodes : row.entry = .ok entry) :
    Instant.parse row.insertTimestamp = .ok entry.insertTime ∧
      Instant.parse row.eventTimestamp = .ok entry.eventTime := by
  simp only [TextRow.entry, bind_eq_ok_iff, mapError_eq_ok_iff, pure_eq_ok, Except.ok.injEq]
    at decodes
  rcases decodes with ⟨data, -, insertTime, insertRead, eventTime, eventRead, rfl⟩
  exact ⟨insertRead, eventRead⟩

/-- The document of a record and the entry that it shows: its times read as those of the entry. -/
structure ShowsTimes (document : RecordDocument) (entry : Entry) : Prop where
  event : ReadsAs document.eventTimestamp entry.eventTime
  insert : ∃ text, document.insertTimestamp = some text ∧ ReadsAs text entry.insertTime

theorem showsTimes_ofEntry {row : TextRow} {entry : Entry} (decodes : row.entry = .ok entry) :
    ShowsTimes (.ofEntry entry) entry := by
  rcases times_of_textRow_entry decodes with ⟨insertRead, eventRead⟩
  exact ⟨readsAs_iso eventRead, entry.insertTime.iso, rfl, readsAs_iso insertRead⟩

theorem exists_textRow_of_select {filter : Filter} {database : Database} {entries : List Entry}
    (selected : database.select filter = .ok entries) {entry : Entry} (inside : entry ∈ entries) :
    ∃ row : TextRow, row.entry = .ok entry := by
  simp only [Database.select, Table.select, bind_eq_ok_iff] at selected
  rcases selected with ⟨_, -, _, -, table, -, _, -, rows, -, walked⟩
  rcases (mem_mapM_iff walked).mp inside with ⟨row, -, decodes⟩
  exact ⟨row, decodes⟩

theorem readsAs_of_create {document created : RecordDocument} {now : Instant} {database : Database}
    (succeeds : (create document now database).1 = .ok created) :
    ∃ event, Instant.parse document.eventTimestamp = .ok event ∧
      ReadsAs created.eventTimestamp event := by
  unfold create at succeeds
  split at succeeds
  · contradiction
  · rename_i event eventRead
    split at succeeds
    · contradiction
    · rcases Except.ok.inj succeeds with rfl
      have parsed := mapError_eq_ok_iff.mp eventRead
      exact ⟨event, parsed, readsAs_iso parsed⟩

theorem showsTimes_of_documents {filter : Filter} {database : Database}
    {found : List RecordDocument} (succeeds : documents filter database = .ok found) :
    ∃ entries, database.select filter = .ok entries ∧ List.Forall₂ ShowsTimes found entries := by
  unfold documents at succeeds
  split at succeeds
  · contradiction
  · rename_i entries selected
    rcases Except.ok.inj succeeds with rfl
    refine ⟨entries, selected, ?_⟩
    rw [List.forall₂_map_left_iff, List.forall₂_same]
    intro entry inside
    rcases exists_textRow_of_select selected inside with ⟨row, decodes⟩
    exact showsTimes_ofEntry decodes

/-- Where the ledger reads a time, it understands the form in which it gives the time out if the
year has four digits, and refuses that form otherwise. So it is with the time of a record that has
just been created, and with both times of the records that are found. -/
theorem times_read_back (input : String) (database : Database) :
    (∀ instant, Instant.parse input = .ok instant → Instant.parse instant.iso =
      if instant.InFourDigitYear then .ok instant else .error ⟨instant.iso⟩) ∧
    (∀ document now created, (create document now database).1 = .ok created →
      ∃ event, Instant.parse document.eventTimestamp = .ok event ∧
        ReadsAs created.eventTimestamp event) ∧
    ∀ filter found, documents filter database = .ok found →
      ∃ entries, database.select filter = .ok entries ∧ List.Forall₂ ShowsTimes found entries := by
  refine ⟨?_, fun document now created => readsAs_of_create,
    fun filter found => showsTimes_of_documents⟩
  intro instant read
  rcases Instant.valid_of_parse read with ⟨valid, whole⟩
  rw [Instant.parse_iso valid, whole]

/-- A leap second that was stated with an offset. -/
theorem leapSecond_reads_back :
    Instant.parse "2024-06-30T23:59:60.5+02:00" = .ok ⟨1719784799, 1500000000⟩ ∧
      Instant.parse "2024-06-30T21:59:60.500Z" = .ok ⟨1719784799, 1500000000⟩ := by
  have read : Instant.parse "2024-06-30T23:59:60.5+02:00" = .ok ⟨1719784799, 1500000000⟩ := by cbv
  have written : Instant.iso ⟨1719784799, 1500000000⟩ = "2024-06-30T21:59:60.500Z" := by cbv
  have again := (times_read_back _ (.deferred .missing)).1 _ read
  rw [written, if_pos (by decide)] at again
  exact ⟨read, again⟩

/-- An offset may carry an event into the year 10000; the time that is given out for it is then
refused. -/
theorem refuses_returned_time : ∃ event,
    Instant.parse "9999-12-31T23:30:00-01:00" = .ok event ∧
      Instant.parse event.iso = .error ⟨event.iso⟩ := by
  refine ⟨⟨253402302600, 0⟩, ?_, ?_⟩ <;> cbv

end TransactionLedger.Record
