import TransactionLedger.Proofs.Json.Reading
import TransactionLedger.Proofs.Sql.KindOrder
import TransactionLedger.Proofs.Sql.Position
import TransactionLedger.Proofs.Store.Judging
import TransactionLedger.Proofs.Store.Leaf

/-!
# Nothing is missed

The part of a payload and the value that it is compared with come to the database in different ways:
the part as a place in the stored text, the value as it is bound. Where the part is a text, a
boolean or an integer of 64 bits with a sign, and the value is of its kind, a search for a leaf
misses no record that the leaf is true of.
-/

namespace TransactionLedger

open TransactionLedger.Filter Query Sql

namespace Query

/-- The comparison is true of a part of the kind of its value. -/
inductive Comparison.Suits (part : Json) : Comparison → Prop
  | equal {field : FieldPath} {value : Json} :
      part.Level value → Suits part ⟨field, .equal, value⟩
  | greater {field : FieldPath} {value : Json} :
      value.Before part → Suits part ⟨field, .greater, value⟩
  | less {field : FieldPath} {value : Json} :
      part.Before value → Suits part ⟨field, .less, value⟩

namespace Comparison

variable {comparison : Comparison} {payload part : Json} {room : Nat}

theorem Suits.accepts (suits : comparison.Suits part) :
    comparison.operator.accepts comparison.value = true := by
  cases suits with
  | equal level => cases level <;> rfl
  | greater before => cases before <;> rfl
  | less before => cases before <;> rfl

theorem Suits.pattern?_eq_none (suits : comparison.Suits part) : comparison.pattern? = none := by
  cases suits <;> rfl

/-- In the database the comparison is true of the part as well. -/
theorem Suits.truth (suits : comparison.Suits part) (wellFormed : payload.WellFormed room)
    (shallow : room ≤ Payload.depthLimit)
    (addressable : ∀ step ∈ comparison.field.steps, step.IsAddressable)
    (found : payload.follow? comparison.field.steps = some part) (simple : part.IsSimple)
    (valid : comparison.value.EveryNumber Json.Number.Valid) :
    comparison.truth (.text payload.render) = .ok (some true) := by
  have extracts : extracted comparison.field.steps (.text payload.render) =
      .ok (Value.ofPart part) := by
    have foundStored := Json.storedFollow?_of_follow? wellFormed addressable found
    rw [extracted_render wellFormed shallow, partValue, foundStored]
    rfl
  cases suits with
  | equal level =>
      have same := level.order?_eq simple valid
      simp [Comparison.truth, extracts, Relation.truth, Relation.orderTruth, same]
  | greater behind =>
      have more := behind.order?_gt simple valid
      simp [Comparison.truth, extracts, Relation.truth, Relation.orderTruth, more]
  | less before =>
      have less := before.order?_lt simple valid
      simp [Comparison.truth, extracts, Relation.truth, Relation.orderTruth, less]

end Comparison

end Query

namespace Store

variable {database : Database} {table : Table} {row : Row} {comparison : Comparison} {part : Json}

/-- A search for a leaf with a single value succeeds where all rows are printed payloads that can be
read. -/
theorem exists_select_of_suits (suits : comparison.Suits part)
    (reached : database.table = .ok table)
    (readable : ∀ row ∈ table.rows, row.Printed ∧ ∃ entry, row.entry = .ok entry) :
    ∃ entries,
      database.select (ofSearch { expression := some (.leaf comparison) }) = .ok entries := by
  have fits := checkLimits_ofSearch_iff.mp (checkLimits_ofLeaf comparison)
  have checked : (Expression.leaf comparison).Checked := by
    intro leaf isLeaf
    rw [List.mem_singleton.mp isLeaf]
    exact suits.accepts
  have short : ∀ pattern ∈ Search.patterns { expression := some (.leaf comparison) },
      Pattern.IsShort pattern := by
    simp [Search.patterns, Search.leaves, Expression.leaves, suits.pattern?_eq_none]
  rcases Database.exists_select_ofSearch reached (fun row inside => (readable row inside).2)
    (fun row inside => (readable row inside).1) fits (by simpa using checked) short with
    ⟨entries, selected, -⟩
  exact ⟨entries, selected⟩

/-- A record whose payload has a part at the end of the path that the leaf is true of is selected by
the leaf: its row passes, every successful search returns its entry, and the search succeeds where
all rows are printed payloads that can be read. -/
theorem select_of_suits {data : Json.Members} (reached : database.table = .ok table)
    (inside : row ∈ table.rows) (stored : row.cells.data = .text (Json.object data).render)
    (wellFormed : (Json.object data).WellFormed Payload.depthLimit)
    (fits : (Text.utf8Bytes (Json.object data).render).length ≤ Payload.byteLimit)
    (found : (Json.object data).follow? comparison.field.steps = some part)
    (simple : part.IsSimple) (valid : comparison.value.EveryNumber Json.Number.Valid)
    (suits : comparison.Suits part) :
    (ofExpression (.leaf comparison)).accepts row.value = .ok true ∧
      (∀ entries, database.select (ofSearch { expression := some (.leaf comparison) }) =
        .ok entries → ∃ entry ∈ entries, row.entry = .ok entry) ∧
      ((∀ other ∈ table.rows, other.Printed ∧ ∃ entry, other.entry = .ok entry) →
        ∃ entries, database.select (ofSearch { expression := some (.leaf comparison) }) =
          .ok entries) := by
  have text : row.value .data = .text (Json.object data).render := by
    simp [Row.value, stored, Cell.value]
  have decided : (Expression.leaf comparison).satisfied (row.value .data) = .ok true := by
    have addressable := Payload.isAddressable_of_byteLimit fits found
    have truth := suits.truth wellFormed le_rfl addressable found simple valid
    simp [Expression.satisfied, text, truth, Truth.isTrue]
  have accepted := accepts_ofExpression decided
  refine ⟨accepted, ?_, exists_select_of_suits suits reached⟩
  intro entries selected
  rcases Database.table_of_select selected with ⟨found, isTable, selects⟩
  rcases Except.ok.inj (reached.symm.trans isTable) with rfl
  apply Table.exists_entry_of_passes selects inside
  rw [← accepts_ofSearch_expression] at accepted
  exact passes_of_accepts accepted

/-- The lines of an order; the second one has a note with a line break and quotes. -/
def notedLines : Json.Members :=
  [("lines", .array [.object [], .object [("note", .string "a\n\"b\"")]])]

def notedRow : Row where
  id := 1
  cells := { (sampleRow 1 "tx" "order").cells with
    data := .text (Json.object notedLines).render }

def notedEntry : Entry :=
  { sampleEntry 1 "tx" "order" with data := notedLines }

def notedTable : Table where
  rows := [notedRow]
  largestId := 1
  ascending := by decide
  bounded := by decide

def notedDatabase : Database where
  place := .present (some notedTable)
  prepared := true

/-- The note of the second line is greater than a text. -/
def noteAfter : Comparison :=
  ⟨⟨⟨"lines".toList, rfl⟩, [.element ⟨['1'], isNumeral_one⟩, .member ⟨"note".toList, rfl⟩]⟩, .greater,
    .string "a\n"⟩

theorem wellFormed_notedLines : (Json.object notedLines).WellFormed Json.Node.nestingLimit := by
  simp [notedLines, Json.WellFormed, Json.membersWellFormed, Json.itemsWellFormed,
    Json.Members.Ascending, Json.Node.nestingLimit]

theorem select_noteAfter :
    (ofExpression (.leaf noteAfter)).accepts notedRow.value = .ok true ∧
      ∃ entries, notedDatabase.select (ofSearch { expression := some (.leaf noteAfter) }) =
        .ok entries ∧ notedEntry ∈ entries := by
  have wellFormed := Json.WellFormed.mono (by decide : _ ≤ Payload.depthLimit) _
    wellFormed_notedLines
  have found : (Json.object notedLines).follow? noteAfter.field.steps =
      some (.string "a\n\"b\"") := rfl
  have simple : (Json.string "a\n\"b\"").IsSimple := trivial
  have suits : noteAfter.Suits (.string "a\n\"b\"") :=
    .greater (.string (Text.utf8Bytes_lt_iff.mpr (by decide)))
  have reached : notedDatabase.table = .ok notedTable := rfl
  have selected := select_of_suits reached List.mem_cons_self rfl wellFormed (by decide +kernel)
    found simple trivial suits
  have decodes : notedRow.entry = .ok notedEntry := by cbv
  have printed : ∀ other ∈ notedTable.rows, other.Printed ∧ ∃ entry, other.entry = .ok entry := by
    intro other among
    rw [List.mem_singleton.mp among]
    exact ⟨⟨notedLines, rfl, wellFormed_notedLines⟩, notedEntry, decodes⟩
  rcases selected.2.2 printed with ⟨entries, succeeds⟩
  rcases selected.2.1 entries succeeds with ⟨entry, inside, same⟩
  rcases Except.ok.inj (decodes.symm.trans same) with rfl
  exact ⟨selected.1, entries, succeeds, inside⟩

end Store

end TransactionLedger
