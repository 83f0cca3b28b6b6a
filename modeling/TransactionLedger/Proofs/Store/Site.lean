import Mathlib.Logic.Function.Basic
import TransactionLedger.Proofs.Store.Failure
import TransactionLedger.Proofs.Store.Growth

/-!
# A table in use

Several callers work on one table: checks that are under way, stage by stage, additions and
selections. A step is one action of one caller, in any order, and each of them can go wrong from
without. A step adds rows or leaves them, and only the last stage of a check sets the mark.
-/

namespace TransactionLedger.Store

open Database

/-! ## Faults from without -/

/-- Something goes wrong that has nothing to do with the table: no session can be had, the work is
lost, the disk is full. -/
structure Fault where
  error : StoreError
  /-- What was to be done is done all the same, and only the answer is lost. -/
  late : Bool
  foreign : error ≠ missingTable

/-- An action in which something may go wrong from without. -/
def Action.spoiled {α : Type} (fault : Option Fault) (action : Action α) : Action α :=
  fun database =>
    match fault with
    | none => action database
    | some fault => (.error fault.error, if fault.late then (action database).2 else database)

namespace Action

variable {α : Type} {fault : Option Fault} {action : Action α} {database : Database}

theorem spoiled_cases (fault : Option Fault) (action : Action α) (database : Database) :
    (action.spoiled fault database).2 = database ∨
      (action.spoiled fault database).2 = (action database).2 := by
  unfold spoiled
  cases fault with
  | none => exact .inr rfl
  | some fault =>
      cases late : fault.late with
      | false => simp [late]
      | true => simp [late]

theorem spoiled_eq_ok {value : α} (succeeds : (action.spoiled fault database).1 = .ok value) :
    action.spoiled fault database = action database := by
  cases fault with
  | none => rfl
  | some fault => contradiction

theorem spoiled_ne_missingTable (found : (action database).1 ≠ .error missingTable) :
    (action.spoiled fault database).1 ≠ .error missingTable := by
  cases fault with
  | none => exact found
  | some fault =>
      intro failed
      exact fault.foreign (Except.error.inj failed)

end Action

/-! ## Sites -/

/-- A database, and for each caller the stages that are left of its check. A caller without stages
is not checking. -/
structure Site where
  database : Database
  pending : Nat → List CheckStage

inductive Event
  /-- A caller that is not checking starts a check. -/
  | begin (caller : Nat)
  /-- A caller goes on with the next stage of its check. -/
  | proceed (caller : Nat) (fault : Option Fault)
  | append (cells : Cells) (fault : Option Fault)
  | select (filter : Filter) (fault : Option Fault)
  /-- The place is changed from outside, which happens only as long as there is no table. -/
  | disturb (place : Place)

def Event.Adds : Event → Prop
  | append .. => True
  | _ => False

inductive Reply
  | nothing
  | checked (outcome : Except StoreError Unit)
  | appended (outcome : Except StoreError Int)
  | selected (outcome : Except StoreError (List Entry))

/-- An addition or a selection has failed for want of the table. -/
def Reply.LacksTable : Reply → Prop
  | appended outcome => outcome = .error missingTable
  | selected outcome => outcome = .error missingTable
  | _ => False

/-- One stage as an action. -/
def CheckStage.attempt (stage : CheckStage) : Action Unit := fun database =>
  match stage.perform database with
  | .ok after => (.ok (), after)
  | .error error => (.error error, database)

/-- Nothing can go wrong where the mark is set: no session and no file are needed for it. -/
def CheckStage.hit (fault : Option Fault) : CheckStage → Option Fault
  | mark => none
  | _ => fault

namespace Site

def fresh (place : Place) (planner : Planner) : Site :=
  ⟨.deferred place planner, fun _ => []⟩

def advance (site : Site) (caller : Nat) (stage : CheckStage) (rest : List CheckStage)
    (fault : Option Fault) : Reply × Site :=
  match stage.attempt.spoiled (stage.hit fault) site.database with
  | (.error error, after) =>
    (.checked (.error error), ⟨after, Function.update site.pending caller []⟩)
  | (.ok (), after) =>
    (if rest = [] then .checked (.ok ()) else .nothing,
      ⟨after, Function.update site.pending caller rest⟩)

def proceed (site : Site) (caller : Nat) (fault : Option Fault) : Reply × Site :=
  match site.pending caller with
  | [] => (.nothing, site)
  | stage :: rest => site.advance caller stage rest fault

def enter (site : Site) (caller : Nat) : Site :=
  match site.pending caller with
  | [] => { site with
      pending := Function.update site.pending caller (CheckStage.ahead site.database) }
  | _ :: _ => site

def disturb (site : Site) (place : Place) : Site :=
  match site.database.table with
  | .ok _ => site
  | .error _ => { site with database := { site.database with place } }

def step (site : Site) : Event → Reply × Site
  | .begin caller => (.nothing, site.enter caller)
  | .proceed caller fault => site.proceed caller fault
  | .append cells fault =>
    let (outcome, after) := (Database.append cells).spoiled fault site.database
    (.appended outcome, { site with database := after })
  | .select filter fault =>
    let selection : Action (List Entry) := fun database => (database.select filter, database)
    (.selected (selection.spoiled fault site.database).1, site)
  | .disturb place => (.nothing, site.disturb place)

end Site

/-- A site and what happens there. -/
structure Moment where
  site : Site
  event : Event

def Moment.reply (moment : Moment) : Reply :=
  (moment.site.step moment.event).1

def Moment.after (moment : Moment) : Site :=
  (moment.site.step moment.event).2

/-- The moments of a run. -/
def run (site : Site) : List Event → List Moment
  | [] => []
  | event :: rest => ⟨site, event⟩ :: run (site.step event).2 rest

/-! ## What a step does to the table -/

namespace Database

/-- A table that is there stays as it is. -/
def Keeps (before after : Database) : Prop :=
  ∀ table, before.table = .ok table → after.table = .ok table

/-- A table that is there keeps its rows, and more may stand behind them. -/
def Grows (before after : Database) : Prop :=
  ∀ table, before.table = .ok table →
    ∃ later, after.table = .ok later ∧ table.rows <+: later.rows

def HasTable (database : Database) : Prop :=
  ∃ table, database.table = .ok table

theorem Keeps.refl (database : Database) : Keeps database database :=
  fun _ reached => reached

theorem Keeps.grows {before after : Database} (keeps : Keeps before after) : Grows before after :=
  fun table reached => ⟨table, keeps table reached, List.prefix_rfl⟩

theorem Grows.trans {before between after : Database} (first : Grows before between)
    (second : Grows between after) : Grows before after := by
  intro table reached
  rcases first table reached with ⟨middle, reachedMiddle, grown⟩
  rcases second middle reachedMiddle with ⟨later, reachedLater, further⟩
  exact ⟨later, reachedLater, grown.trans further⟩

theorem Grows.hasTable {before after : Database} (grows : Grows before after)
    (found : before.HasTable) : after.HasTable := by
  rcases found with ⟨table, reached⟩
  rcases grows table reached with ⟨later, reachedLater, -⟩
  exact ⟨later, reachedLater⟩

end Database

theorem CheckStage.attempt_cases (stage : CheckStage) (database : Database) :
    stage.attempt database = (.ok (), (stage.attempt database).2) ∧
        stage.perform database = .ok (stage.attempt database).2 ∨
      ∃ error, stage.attempt database = (.error error, database) ∧
        stage.perform database = .error error := by
  unfold attempt
  cases stage.perform database with
  | ok after => exact .inl ⟨rfl, rfl⟩
  | error error => exact .inr ⟨error, rfl, rfl⟩

theorem CheckStage.keeps_attempt (stage : CheckStage) (fault : Option Fault) (database : Database) :
    Keeps database (stage.attempt.spoiled fault database).2 := by
  intro table reached
  rcases Action.spoiled_cases fault stage.attempt database with same | done
  · rw [same]
    exact reached
  · rw [done]
    rcases stage.attempt_cases database with ⟨-, performed⟩ | ⟨error, failed, -⟩
    · exact table_of_perform reached performed
    · rw [failed]
      exact reached

theorem grows_append (cells : Cells) (fault : Option Fault) (database : Database) :
    Grows database ((Database.append cells).spoiled fault database).2 := by
  intro table reached
  rcases Action.spoiled_cases fault (Database.append cells) database with same | done
  · rw [same]
    exact ⟨table, reached, List.prefix_rfl⟩
  · rw [done]
    rcases append_cases reached cells with
      ⟨error, failed⟩ | ⟨id, behind, after, added, reachedAfter, rows, -⟩
    · rw [failed]
      exact ⟨table, reached, List.prefix_rfl⟩
    · rw [added]
      exact ⟨behind, reachedAfter, _, rows.symm⟩

theorem prepared_append (cells : Cells) (fault : Option Fault) (database : Database) :
    ((Database.append cells).spoiled fault database).2.prepared = database.prepared := by
  have plain : (database.append cells).2.prepared = database.prepared := by
    unfold Database.append Database.modify
    cases database.table with
    | error error => rfl
    | ok table =>
        dsimp only
        cases table.append cells <;> rfl
  rcases Action.spoiled_cases fault (Database.append cells) database with same | done
  · rw [same]
  · rw [done, plain]

theorem CheckStage.prepared_of_perform {stage : CheckStage} {database after : Database}
    (other : stage ≠ mark) (performed : stage.perform database = .ok after) :
    after.prepared = database.prepared := by
  cases stage with
  | directory =>
      rcases bind_eq_ok_iff.mp performed with ⟨place, -, same⟩
      rw [← Except.ok.inj same]
  | table =>
      rcases bind_eq_ok_iff.mp performed with ⟨place, -, same⟩
      rw [← Except.ok.inj same]
  | mark => contradiction
  | query =>
      rcases bind_eq_ok_iff.mp performed with ⟨table, -, same⟩
      rw [← Except.ok.inj same]

theorem CheckStage.prepared_attempt {stage : CheckStage} (other : stage ≠ mark)
    (fault : Option Fault) (database : Database) :
    (stage.attempt.spoiled fault database).2.prepared = database.prepared := by
  rcases Action.spoiled_cases fault stage.attempt database with same | done
  · rw [same]
  · rw [done]
    rcases stage.attempt_cases database with ⟨-, performed⟩ | ⟨error, failed, -⟩
    · exact prepared_of_perform other performed
    · rw [failed]

theorem CheckStage.perform_of_succeeds {stage : CheckStage} {fault : Option Fault}
    {database after : Database}
    (succeeds : stage.attempt.spoiled fault database = (.ok (), after)) :
    stage.perform database = .ok after := by
  have plain := Action.spoiled_eq_ok (congrArg Prod.fst succeeds)
  rcases stage.attempt_cases database with ⟨-, performed⟩ | ⟨error, failed, -⟩
  · rw [performed, ← plain, succeeds]
  · rw [plain, failed] at succeeds
    cases succeeds

/-- A stage that fails leaves the mark as it is, set or not. -/
theorem CheckStage.prepared_of_failed {stage : CheckStage} {fault : Option Fault}
    {database after : Database} {error : StoreError}
    (failed : stage.attempt.spoiled (stage.hit fault) database = (.error error, after)) :
    after.prepared = database.prepared := by
  by_cases marks : stage = mark
  · rw [marks] at failed
    cases failed
  · have same := prepared_attempt marks (stage.hit fault) database
    rw [failed] at same
    exact same

theorem CheckStage.hasTable_of_perform {database after : Database}
    (performed : table.perform database = .ok after) : after.HasTable := by
  rcases bind_eq_ok_iff.mp performed with ⟨place, made, same⟩
  rcases bind_eq_ok_iff.mp made with ⟨found, -, placed⟩
  rw [← Except.ok.inj same, ← Except.ok.inj placed]
  exact ⟨_, table_eq_ok_iff.mpr rfl⟩

theorem Site.step_proceed {site : Site} {caller : Nat} {stage : CheckStage}
    {rest : List CheckStage} (pending : site.pending caller = stage :: rest) (fault : Option Fault) :
    site.step (.proceed caller fault) = site.advance caller stage rest fault := by
  change site.proceed caller fault = _
  unfold proceed
  rw [pending]

/-- What going on with a check can do: the stage fails and the check is over, or it is performed and
the rest is left. -/
theorem Site.advance_cases (site : Site) (caller : Nat) (stage : CheckStage)
    (rest : List CheckStage) (fault : Option Fault) :
    ∃ after, Keeps site.database after ∧
      ((∃ error, site.advance caller stage rest fault =
            (.checked (.error error), ⟨after, Function.update site.pending caller []⟩) ∧
          after.prepared = site.database.prepared) ∨
        site.advance caller stage rest fault =
            (if rest = [] then .checked (.ok ()) else .nothing,
              ⟨after, Function.update site.pending caller rest⟩) ∧
          stage.perform site.database = .ok after) := by
  have keeps := stage.keeps_attempt (stage.hit fault) site.database
  unfold advance
  cases outcome : stage.attempt.spoiled (stage.hit fault) site.database with
  | mk result after =>
      rw [outcome] at keeps
      refine ⟨after, keeps, ?_⟩
      cases result with
      | error error => exact .inl ⟨error, rfl, CheckStage.prepared_of_failed outcome⟩
      | ok done => exact .inr ⟨rfl, CheckStage.perform_of_succeeds outcome⟩

end TransactionLedger.Store
