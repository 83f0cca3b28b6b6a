import TransactionLedger.Proofs.Store.Selection

/-!
# Tables that stay and grow

A check leaves a table as it is, and an addition puts one row behind the others. What is selected
from a table that has grown begins with what was selected before.
-/

namespace TransactionLedger.Store

/-! ## Checks -/

theorem Database.table_eq_ok_iff {database : Database} {table : Table} :
    database.table = .ok table ↔ database.place = .present (some table) := by
  rcases database with ⟨_ | _ | (_ | found), prepared⟩ <;>
    simp [Database.table, Place.reach]

theorem CheckStage.table_of_perform {database after : Database} {table : Table} {stage : CheckStage}
    (reached : database.table = .ok table) (performed : stage.perform database = .ok after) :
    after.table = .ok table := by
  rw [Database.table_eq_ok_iff] at reached
  cases stage with
  | directory =>
      simp only [perform, reached, Place.makeDirectory, ok_bind, pure_eq_ok, Except.ok.injEq]
        at performed
      rw [← performed, Database.table_eq_ok_iff]
  | table =>
      simp only [perform, reached, Place.makeTable, Place.reach, ok_bind, pure_eq_ok,
        Except.ok.injEq, Option.getD_some] at performed
      rw [← performed, Database.table_eq_ok_iff]
  | mark =>
      rw [← Except.ok.inj performed, Database.table_eq_ok_iff]
      exact reached
  | query =>
      rcases bind_eq_ok_iff.mp performed with ⟨found, -, same⟩
      rw [← Except.ok.inj same, Database.table_eq_ok_iff]
      exact reached

theorem CheckStage.table_performAll {database : Database} {table : Table}
    (stages : List CheckStage) (reached : database.table = .ok table) :
    (performAll stages database).2.table = .ok table := by
  induction stages generalizing database with
  | nil => exact reached
  | cons stage rest ih =>
      unfold performAll
      split
      · rename_i after performed
        exact ih (table_of_perform reached performed)
      · exact reached

/-- A check leaves a table as it is. -/
theorem Database.table_check {database : Database} {table : Table}
    (reached : database.table = .ok table) : database.check.2.table = .ok table :=
  CheckStage.table_performAll _ reached

/-! ## Additions -/

/-- A row is added behind the others, with an id above all that have been given, or nothing
changes. -/
theorem append_cases {database : Database} {table : Table} (reached : database.table = .ok table)
    (cells : Cells) :
    (∃ error, database.append cells = (.error error, database)) ∨
      ∃ id behind after, database.append cells = (.ok id, after) ∧ after.table = .ok behind ∧
        behind.rows = table.rows ++ [⟨id, cells⟩] ∧ table.largestId < id := by
  simp only [Database.append, Database.modify, reached, Table.append]
  by_cases full : Table.idLimit ≤ table.largestId
  · left
    simp only [if_pos full]
    exact ⟨_, rfl⟩
  · right
    simp only [if_neg full]
    exact ⟨_, _, _, rfl, rfl, rfl, Int.lt_succ table.largestId⟩

/-! ## Selections -/

/-- What is selected from more rows begins with what is selected from fewer. -/
theorem Database.prefix_of_select {filter : Filter} {database after : Database}
    {earlier later : Table} {found more : List Entry} (reached : database.table = .ok earlier)
    (reachedAfter : after.table = .ok later) (grown : earlier.rows <+: later.rows)
    (selected : database.select filter = .ok found)
    (selectedAfter : after.select filter = .ok more) : found <+: more := by
  rcases table_of_select selected with ⟨_, same, selected⟩
  rcases Except.ok.inj (reached.symm.trans same)
  rcases table_of_select selectedAfter with ⟨_, same, selectedAfter⟩
  rcases Except.ok.inj (reachedAfter.symm.trans same)
  rcases grown with ⟨added, grown⟩
  have walked := (Table.select_eq_ok_iff.mp selected).2
  have walkedAfter := (Table.select_eq_ok_iff.mp selectedAfter).2
  rw [← grown, List.filter_append, List.mapM_append, walked, ok_bind] at walkedAfter
  rcases bind_eq_ok_iff.mp walkedAfter with ⟨behind, -, same⟩
  exact ⟨behind, Except.ok.inj same⟩

end TransactionLedger.Store
