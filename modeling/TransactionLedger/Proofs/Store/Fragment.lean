import TransactionLedger.Proofs.Sql.Fragment
import TransactionLedger.Proofs.Store.Conjunction

/-!
# Searches for an id fragment

A search for an id fragment finds the records with an id in which the fragment is found as a
pattern. Every id that contains the fragment is among them. Ids that do not contain it are found
only if a character of the fragment stands for others than itself: a percent sign, an underscore, an
ASCII letter, or a character that counts as the replacement character.
-/

namespace TransactionLedger

open TransactionLedger.Filter Query Sql

/-- The characters of a cell. -/
def Store.Cell.characters : Store.Cell → List Char
  | text value => value.toList
  | bytes value => (Text.decodeUtf8 value).map orReplacement

theorem Store.Cell.textForm?_value (cell : Store.Cell) :
    cell.value.textForm? = some cell.characters := by
  cases cell <;> rfl

namespace Filter

theorem ofSearch_fragment {fragment : String} (nonempty : fragment ≠ "") :
    ofSearch { idFragment := some fragment } =
      ⟨some (.compare (.column .uniqueId) .like (.placeholder "uid")),
        [("uid", .text (fragmentPattern fragment))]⟩ := by
  simp [ofSearch, criteria, idCriterion, nonempty, eventTypeCriterion, timeCriteria,
    expressionCriterion, Condition.all?]

theorem checkLimits_ofFragment {fragment : String} (nonempty : fragment ≠ "") :
    (ofSearch { idFragment := some fragment }).checkLimits = .ok () := by
  simp [ofSearch_fragment nonempty, checkLimits, names, withinDepth, Condition.demands,
    Operand.demands, Operand.placeholders, variableLimit, depthLimit]

/-- A row is judged by the pattern for the fragment. -/
theorem accepts_ofFragment_eq {fragment : String} (nonempty : fragment ≠ "") (row : Column → Value) :
    (ofSearch { idFragment := some fragment }).accepts row =
      Relation.likeHolds (row .uniqueId) (.text (fragmentPattern fragment)) := by
  have distinct : (ofSearch { idFragment := some fragment }).names.Nodup :=
    nodup_names_ofSearch _
  have bound : (Scope.mk row (ofSearch { idFragment := some fragment }).bindings).placeholder
      "uid" = .text (fragmentPattern fragment) := by
    rw [placeholder_bindings distinct, ofSearch_fragment nonempty]
    rfl
  rw [← bound, accepts, ofSearch_fragment nonempty]
  rfl

theorem accepts_ofFragment {fragment : String} (nonempty : fragment ≠ "")
    (short : (fragmentPattern fragment).utf8ByteSize ≤ Pattern.byteLimit) {row : Column → Value}
    {id : List Char} (shown : (row .uniqueId).textForm? = some id) :
    (ofSearch { idFragment := some fragment }).accepts row =
      .ok (Pattern.accepts (fragmentPattern fragment).toList id) := by
  have inLimit : ¬ Pattern.byteLimit < (fragmentPattern fragment).utf8ByteSize :=
    Nat.not_lt.mpr short
  rw [accepts_ofFragment_eq nonempty, Relation.likeHolds, shown]
  simp [Value.textForm?, inLimit]

end Filter

namespace Store

/-- The fragment is found in the row's id as a pattern. -/
def Row.IdMatches (row : Row) (fragment : String) : Prop :=
  Pattern.FoundIn (Pattern.effective fragment.toList)
    (Pattern.effective row.cells.uniqueId.characters)

instance (row : Row) (fragment : String) : Decidable (row.IdMatches fragment) :=
  inferInstanceAs (Decidable (Pattern.FoundIn _ _))

/-- A search for a fragment finds the records whose id the fragment matches as a pattern somewhere,
in the order of their numbers. Every id that contains the fragment is found, and no other if each
character of the fragment stands for itself alone. -/
theorem select_ofFragment {database : Database} {table : Table} {fragment : String}
    (reached : database.table = .ok table) (nonempty : fragment ≠ "")
    (plain : '\x00' ∉ fragment.toList)
    (short : (fragmentPattern fragment).utf8ByteSize ≤ Pattern.byteLimit)
    (plainIds : ∀ row ∈ table.rows, '\x00' ∉ row.cells.uniqueId.characters) :
    (∀ entries, database.select (ofSearch { idFragment := some fragment }) = .ok entries ↔
        (table.rows.filter fun row => row.IdMatches fragment).mapM Row.entry = .ok entries) ∧
      (∀ entries, database.select (ofSearch { idFragment := some fragment }) = .ok entries →
        entries.Pairwise fun earlier later => earlier.id < later.id) ∧
      (∀ row ∈ table.rows, fragment.toList <:+: row.cells.uniqueId.characters →
        row.IdMatches fragment) ∧
      ((∀ c ∈ fragment.toList, Pattern.StandsForItself c) → ∀ row ∈ table.rows,
        (row.IdMatches fragment ↔ fragment.toList <:+: row.cells.uniqueId.characters)) := by
  have contained : ∀ row ∈ table.rows, fragment.toList <:+: row.cells.uniqueId.characters →
      row.IdMatches fragment :=
    fun row inside => Pattern.foundIn_of_infix (plainIds row inside)
  refine ⟨?_, ?_, contained, ?_⟩
  · intro entries
    apply Database.select_eq_ok_iff reached (checkLimits_ofFragment nonempty)
    intro row _
    have shown : (row.value .uniqueId).textForm? = some row.cells.uniqueId.characters :=
      row.cells.uniqueId.textForm?_value
    have matching : Pattern.accepts (fragmentPattern fragment).toList
        row.cells.uniqueId.characters = decide (row.IdMatches fragment) := by
      rw [Bool.eq_iff_iff, Pattern.accepts_fragmentPattern_iff plain, decide_eq_true_eq]
      rfl
    rw [← matching]
    exact accepts_ofFragment nonempty short shown
  · intro entries selected
    rcases Database.table_of_select selected with ⟨found, -, selected⟩
    exact Table.ascending_select selected
  · intro alone row inside
    exact ⟨Pattern.infix_of_foundIn (plainIds row inside) plain alone, contained row inside⟩

/-! ## Examples -/

/-- A fragment in capitals, with an underscore for the dash, finds the id. -/
theorem select_sampleFragment :
    sampleDatabase.select (ofSearch { idFragment := some "X_1" }) =
      .ok [sampleEntry 1 "tx-1" "payment"] := by
  have reached : sampleDatabase.table = .ok sampleTable := rfl
  have nonempty : "X_1" ≠ "" := by decide
  exact ((select_ofFragment reached nonempty (by decide) (by decide) (by decide)).1 _).mpr rfl

/-- It is found although it does not contain the fragment. -/
theorem select_not_containing : ∃ entries,
    sampleDatabase.select (ofSearch { idFragment := some "tx_1" }) = .ok entries ∧
      ∃ entry ∈ entries, ¬ "tx_1".toList <:+: entry.uniqueId.toList :=
  ⟨[sampleEntry 1 "tx-1" "payment"], rfl, _, List.mem_singleton_self _, by decide⟩

end Store

end TransactionLedger
