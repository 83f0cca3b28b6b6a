import TransactionLedger.Proofs.Outcome
import TransactionLedger.Store.Database

/-!
# Failures of the store

Where the table can be reached, an addition or a selection can still fail: over the size of the
statement, over a row that cannot be judged or over a column that holds no text. It never fails for
a missing table.
-/

namespace TransactionLedger

open TransactionLedger.Filter Sql

/-! ## Judging rows -/

namespace Filter

theorem Operand.error_of_evaluate {scope : Scope} {operand : Operand}
    {error : SqlError} (failed : operand.evaluate scope = .error error) :
    error = .malformedPayload := by
  induction operand with
  | column which => contradiction
  | placeholder name => contradiction
  | extract source path ih =>
      simp only [Operand.evaluate, bind_eq_error_iff] at failed
      rcases failed with inner | ⟨value, -, outer⟩
      · exact ih inner
      · split at outer
        · contradiction
        · exact (Except.error.inj outer).symm

/-- What judging a row can fail with. -/
def IsFault (error : SqlError) : Prop :=
  error = .malformedPayload ∨ error = .patternTooComplex

theorem Relation.isFault_of_holds {relation : Relation} {lhs rhs : Value}
    {error : SqlError} (failed : relation.holds lhs rhs = .error error) : IsFault error := by
  cases relation with
  | like =>
      simp only [Relation.holds, Relation.likeHolds] at failed
      split at failed
      · contradiction
      · split at failed
        · exact .inr (Except.error.inj failed).symm
        · split at failed <;> contradiction
  | _ => contradiction

theorem isFault_of_isOneOf {scope : Scope} {value : Value} {choices : List Operand}
    {error : SqlError} (failed : isOneOf scope value choices = .error error) :
    IsFault error := by
  induction choices with
  | nil => contradiction
  | cons choice rest ih =>
      simp only [isOneOf, bind_eq_error_iff] at failed
      rcases failed with evaluated | ⟨other, -, compared | ⟨equal, -, behind⟩⟩
      · exact .inl (Operand.error_of_evaluate evaluated)
      · exact Relation.isFault_of_holds compared
      · cases equal with
        | true => contradiction
        | false => exact ih behind

theorem Condition.isFault_of_holds {scope : Scope} {condition : Condition}
    {error : SqlError} (failed : condition.holds scope = .error error) : IsFault error := by
  induction condition with
  | compare lhs relation rhs =>
      simp only [Condition.holds, bind_eq_error_iff] at failed
      rcases failed with left | ⟨_, -, right | ⟨_, -, compared⟩⟩
      · exact .inl (Operand.error_of_evaluate left)
      · exact .inl (Operand.error_of_evaluate right)
      · exact Relation.isFault_of_holds compared
  | between subject low high =>
      simp only [Condition.holds, bind_eq_error_iff] at failed
      rcases failed with inner | ⟨_, -, lower | ⟨_, -, compared | ⟨above, -, behind⟩⟩⟩
      · exact .inl (Operand.error_of_evaluate inner)
      · exact .inl (Operand.error_of_evaluate lower)
      · exact Relation.isFault_of_holds compared
      · cases above with
        | false => contradiction
        | true =>
            rcases bind_eq_error_iff.mp behind with upper | ⟨_, -, compared⟩
            · exact .inl (Operand.error_of_evaluate upper)
            · exact Relation.isFault_of_holds compared
  | oneOf subject choices =>
      simp only [Condition.holds, bind_eq_error_iff] at failed
      rcases failed with inner | ⟨_, -, among⟩
      · exact .inl (Operand.error_of_evaluate inner)
      · exact isFault_of_isOneOf among
  | both lhs rhs ihLhs ihRhs =>
      simp only [Condition.holds, bind_eq_error_iff] at failed
      rcases failed with left | ⟨holds, -, right⟩
      · exact ihLhs left
      · cases holds with
        | true => exact ihRhs right
        | false => contradiction
  | either lhs rhs ihLhs ihRhs =>
      simp only [Condition.holds, bind_eq_error_iff] at failed
      rcases failed with left | ⟨holds, -, right⟩
      · exact ihLhs left
      · cases holds with
        | true => contradiction
        | false => exact ihRhs right
  | group inner ih => exact ih failed

theorem isFault_of_accepts {filter : Filter} {row : Column → Value} {error : SqlError}
    (failed : filter.accepts row = .error error) : IsFault error := by
  unfold accepts at failed
  split at failed
  · exact Condition.isFault_of_holds failed
  · contradiction

theorem checkLimits_ne_missingTable (filter : Filter) (name : String) :
    filter.checkLimits ≠ .error (.missingTable name) := by
  unfold checkLimits
  cases filter.names[variableLimit]? with
  | none =>
      dsimp only
      generalize withinDepth _ = fits
      cases fits <;> exact nofun
  | some last =>
      dsimp only
      generalize withinDepth _ = fits
      cases fits <;> exact nofun

end Filter

/-! ## Selecting and adding -/

namespace Store

theorem Row.error_of_texts {row : Row} {error : Sql.SqlError} (failed : row.texts = .error error) :
    ∃ position name, error = .bytesInColumn position name := by
  have column {which : Filter.Column} {cell : Cell} (failed : columnText which cell = .error error) :
      ∃ position name, error = .bytesInColumn position name := by
    cases cell with
    | text value => contradiction
    | bytes value => exact ⟨_, _, (Except.error.inj failed).symm⟩
  simp only [texts, bind_eq_error_iff, pure_eq_ok, reduceCtorEq, and_false, exists_false,
    or_false] at failed
  rcases failed with failed | ⟨_, -, failed | ⟨_, -, failed | ⟨_, -, failed | ⟨_, -, failed⟩⟩⟩⟩ <;>
    exact column failed

theorem error_of_matchingRows {filter : Filter} {rows : List Row} {error : Sql.SqlError}
    (failed : matchingRows filter rows = .error error) :
    IsFault error ∨ ∃ position name, error = .bytesInColumn position name := by
  induction rows with
  | nil => contradiction
  | cons row rest ih =>
      simp only [matchingRows, bind_eq_error_iff] at failed
      rcases failed with judged | ⟨passes, -, behind⟩
      · exact .inl (isFault_of_accepts judged)
      · cases passes with
        | false => exact ih behind
        | true =>
            simp only [if_true, bind_eq_error_iff, pure_eq_ok, reduceCtorEq, and_false,
              exists_false, or_false] at behind
            rcases behind with texts | ⟨_, -, walked⟩
            · exact .inr (Row.error_of_texts texts)
            · exact ih walked

theorem TextRow.entry_ne_database (row : TextRow) (error : Sql.SqlError) :
    row.entry ≠ .error (.database error) := by
  intro failed
  simp only [entry, bind_eq_error_iff, mapError_eq_error_iff, reduceCtorEq, and_false, exists_false,
    pure_eq_ok, or_false] at failed
  unfold payload at failed
  split at failed <;> cases failed

theorem Table.select_ne_missingTable (table : Table) (planner : Planner) (filter : Filter) :
    table.select planner filter ≠ .error Database.missingTable := by
  intro failed
  simp only [select, bind_eq_error_iff, mapError_eq_error_iff] at failed
  rcases failed with ⟨error, ahead, same⟩ | ⟨_, -, ⟨error, walked, same⟩ | ⟨texts, -, walked⟩⟩
  · have missing : error = .missingTable Filter.tableName := StoreError.database.inj same
    rcases exists_of_mapM_eq_error ahead with ⟨row, -, judged⟩
    rcases isFault_of_accepts judged with rfl | rfl <;> contradiction
  · have missing : error = .missingTable Filter.tableName := StoreError.database.inj same
    rcases error_of_matchingRows walked with (rfl | rfl) | ⟨position, name, rfl⟩ <;> contradiction
  · rcases exists_of_mapM_eq_error walked with ⟨row, -, failed⟩
    exact row.entry_ne_database _ failed

variable {database : Database} {table : Table}

theorem Database.select_ne_missingTable (reached : database.table = .ok table) (filter : Filter) :
    database.select filter ≠ .error missingTable := by
  intro failed
  simp only [select, bind_eq_error_iff, mapError_eq_error_iff] at failed
  rcases failed with unopened | ⟨_, -, ⟨error, refused, same⟩ | ⟨_, -, missing | ⟨found, -, failed⟩⟩⟩
  · rcases bind_eq_ok_iff.mp reached with ⟨found, opened, -⟩
    rw [opened] at unopened
    contradiction
  · have missing : error = .missingTable Filter.tableName := StoreError.database.inj same
    rw [missing] at refused
    exact filter.checkLimits_ne_missingTable _ refused
  · rw [reached] at missing
    contradiction
  · exact found.select_ne_missingTable database.planner filter failed

theorem Database.append_ne_missingTable (reached : database.table = .ok table) (cells : Cells) :
    (database.append cells).1 ≠ .error missingTable := by
  simp only [append, modify, reached, Table.append]
  by_cases full : Table.idLimit ≤ table.largestId
  · rw [if_pos full]
    exact fun failed => nomatch StoreError.database.inj (Except.error.inj failed)
  · rw [if_neg full]
    exact nofun

end Store

end TransactionLedger
