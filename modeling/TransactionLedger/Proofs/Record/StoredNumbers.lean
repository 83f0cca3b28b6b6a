import TransactionLedger.Proofs.Json.RereadNumber
import TransactionLedger.Proofs.Record.Ledger

/-!
# Numbers of stored records

A record is stored as text, and its numbers are read from this text whenever the record is found.
The history of an id therefore shows the records that have been created with the numbers that their
texts are read as.
-/

namespace TransactionLedger.Record

open Json Store

/-- The records agree but for the insert time and the numbers in the data, and each number is shown
as what it may be read as. -/
structure ShowsNumbers (created shown : RecordDocument) : Prop where
  record : shown.withoutInsertTime = { created with data := shown.data }
  data : (object created.data).Corresponds Number.RereadAs (object shown.data)

theorem corresponds_rereadMembers {members : Members}
    (valid : (object members).EveryNumber Number.Valid) :
    (object members).Corresponds Number.RereadAs (object (rereadMembers members)) :=
  corresponds_reread _ (EveryNumber.imp (fun _ => Number.Valid.rereadAs) _ valid)

theorem showsNumbers_of_recalled {created shown : RecordDocument}
    (valid : (object created.data).EveryNumber Number.Valid)
    (same : shown.withoutInsertTime = created.recalled) : ShowsNumbers created shown := by
  have data : shown.data = rereadMembers created.data := congrArg RecordDocument.data same
  refine ⟨?_, ?_⟩
  · rw [same, data]
    rfl
  · rw [data]
    exact corresponds_rereadMembers valid

theorem valid_of_mem_createdRecords {requests : List Request} {database : Database}
    (sound : ∀ request ∈ requests, request.Sound) {created : RecordDocument}
    (inside : created ∈ createdRecords (run requests database).1) :
    (object created.data).EveryNumber Number.Valid := by
  rcases exists_create_of_mem inside with ⟨document, now, listed, data⟩
  rcases sound _ listed with ⟨⟨text, parsed⟩, -⟩
  rw [data]
  exact RecordDocument.valid_of_parse parsed

/-- After any requests on a table that was empty, a history succeeds. It lists the records that the
creations have given back, and shows each of their numbers as it is read from its text: integers,
zeros and numbers with a short text have the same 64 bits, and all others have the same sign and are
less than seven steps away. -/
theorem history_shows_numbers {requests : List Request} {database : Database} {table : Table}
    (reached : database.table = .ok table) (empty : table.rows = [])
    (sound : ∀ request ∈ requests, request.Sound) (id : String) :
    ∃ found, history id (run requests database).2 = .ok found ∧
      List.Forall₂ ShowsNumbers
        ((createdRecords (run requests database).1).filter fun document => document.uniqueId = id)
        found := by
  have start : Holds database [] := ⟨table, [], reached, by simp [empty], rfl⟩
  have holds := holds_run_recalled start sound
  rw [List.nil_append] at holds
  rcases holds.history id with ⟨found, succeeds, lists, -⟩
  refine ⟨found, succeeds, ?_⟩
  have recalled : List.Forall₂ (fun created shown : RecordDocument =>
        created.recalled = shown.withoutInsertTime)
      ((createdRecords (run requests database).1).filter fun document => document.uniqueId = id)
      found := by
    have equal := List.forall₂_eq_eq_eq ▸ lists.symm
    rw [List.filter_map] at equal
    exact List.forall₂_map_right_iff.mp (List.forall₂_map_left_iff.mp equal)
  have valid : ∀ created ∈ (createdRecords (run requests database).1).filter
      fun document => document.uniqueId = id, (object created.data).EveryNumber Number.Valid :=
    fun created inside => valid_of_mem_createdRecords sound (List.mem_of_mem_filter inside)
  exact ((List.forall₂_and_left _ _).mpr ⟨valid, recalled⟩).imp fun created shown both =>
    showsNumbers_of_recalled both.1 both.2.symm

/-! ## A number that drifts -/

/-- A payment that is sent with one amount. -/
def paymentNode (amount : Numeral) : Node :=
  .object [(spelling "uniqueId", .string (spelling "tx-1")),
    (spelling "eventTimestamp", .string (spelling "2024-01-02")),
    (spelling "eventType", .string (spelling "payment")),
    (spelling "data", .object [(spelling "amount", .number amount)] true)] true

theorem read_paymentNode {amount : Numeral} {number : Json.Number}
    (denotes : amount.value? = some number) :
    RecordDocument.read (paymentNode amount) =
      .ok { samplePayment with data := [("amount", .number number)] } := by
  have amountRead : amount.read = .ok number := by rw [Numeral.read, denotes]
  simp [RecordDocument.read, paymentNode, RecordShape.read, RecordDocument.shape, Node.nestingLimit,
    RecordShape.takeMembers, readSpelling, RecordDraft.take, Node.readString, Node.readObject,
    Node.readMembers, Node.readValue, amountRead, Reading.require, Reading.within, Except.mapError,
    RecordShape.close, RecordDraft.finish, samplePayment, Members.insert]

/-- The number next to 110, and the text of which is read as 110. -/
def drifting : Decimal.Binary64 :=
  ⟨false, ⟨7740561859543041, -46⟩⟩

def driftingPayment : RecordDocument :=
  { samplePayment with data := [("amount", .number (.real drifting))] }

def driftingText : String :=
  "\x7b\"uniqueId\":\"tx-1\",\"eventTimestamp\":\"2024-01-02\"," ++
    "\"eventType\":\"payment\",\"data\":\x7b\"amount\":110.000000000000014\x7d\x7d"

theorem parse_driftingPayment : RecordDocument.parse driftingText = .ok driftingPayment := by
  have denotes : Numeral.value? ⟨false, ['1', '1', '0'], some "000000000000014".toList, none⟩ =
      some (.real drifting) := by
    decide +kernel
  have node : Document.ofText driftingText =
      ⟨paymentNode ⟨false, ['1', '1', '0'], some "000000000000014".toList, none⟩, false⟩ := by
    cbv
  rw [RecordDocument.parse, node, Document.readAll, read_paymentNode denotes]
  rfl

/-- The creation and the history of the payment; the amount is less than seven steps away. -/
theorem history_shows_driftingPayment :
    (∀ request ∈ [Request.create driftingPayment ⟨1704164645, 0⟩], request.Sound) ∧
    ∃ found, history "tx-1" (run [.create driftingPayment ⟨1704164645, 0⟩] emptyLedger).2 =
        .ok found ∧
      List.Forall₂ ShowsNumbers [{ driftingPayment with
        transactionRecordId := some 1, eventTimestamp := "2024-01-02T00:00:00.000Z" }] found := by
  have reached : emptyLedger.table = .ok .empty := rfl
  have sound : ∀ request ∈ [Request.create driftingPayment ⟨1704164645, 0⟩], request.Sound := by
    simp only [List.forall_mem_singleton]
    exact ⟨⟨_, parse_driftingPayment⟩, by decide⟩
  exact ⟨sound, history_shows_numbers reached rfl sound "tx-1"⟩

/-- Integers that are equal, and numbers with the same 64 bits. -/
def SameBits : Json.Number → Json.Number → Prop
  | .integer first, .integer second => first = second
  | .real first, .real second => first.toBits = second.toBits
  | _, _ => False

/-- The amount has other bits once it is read from its row. -/
theorem not_forall_sameBits : ¬ ∀ (text : String) (document : RecordDocument)
    (id : Int) (event now : Timestamp.Instant) (entry : Entry),
    RecordDocument.parse text = .ok document → event.Valid → now.Valid →
      Row.entry ⟨id, newCells document.uniqueId event document.eventType document.data now⟩ =
        .ok entry →
      (object document.data).Corresponds SameBits (object entry.data) := by
  intro same
  have decoded := entry_newCells_of_legible 1 driftingPayment.uniqueId driftingPayment.eventType
    (RecordDocument.wellFormed_of_parse parse_driftingPayment)
    (RecordDocument.legible_of_parse parse_driftingPayment)
    (by decide : Timestamp.Instant.Valid ⟨1704153600, 0⟩)
    (by decide : Timestamp.Instant.Valid ⟨1704164645, 0⟩)
  have reread : (Json.Number.real drifting).numeral.value? =
      some (.real ⟨false, ⟨7740561859543040, -46⟩⟩) := by
    decide +kernel
  have bits := same _ driftingPayment 1 _ _ _ parse_driftingPayment (by decide) (by decide) decoded
  simp only [driftingPayment, rereadMembers, Json.reread, reread, Option.getD_some, Corresponds,
    membersCorrespond, SameBits] at bits
  exact absurd bits.2.1 (by decide)

end TransactionLedger.Record
