import TransactionLedger.Proofs.Store.Site

/-!
# Readiness under overlapping checks

A database that is made at its first successful check can be checked by several callers at once.
Their stages interleave with each other, with additions and with selections, and each of these can
go wrong from without. Two callers can both find the database unprepared and both make the table.
Even so the mark never runs ahead of the table, no check changes a row, and once a check has
succeeded the table is there for good.
-/

namespace TransactionLedger.Store

open Database

/-! ## The invariant -/

/-- What can be left of a check. Whoever has made the table and has the mark ahead still finds the
table, and whoever has only the query ahead finds the mark. -/
inductive Underway (database : Database) : List CheckStage → Prop
  | idle : Underway database []
  | started : Underway database [.directory, .table, .mark, .query]
  | opened : Underway database [.table, .mark, .query]
  | made (found : database.HasTable) : Underway database [.mark, .query]
  | marked (prepared : database.prepared = true) : Underway database [.query]

theorem Underway.mono {before after : Database} {stages : List CheckStage}
    (underway : Underway before stages) (grows : Grows before after)
    (stays : before.prepared = true → after.prepared = true) : Underway after stages := by
  cases underway with
  | idle => exact .idle
  | started => exact .started
  | opened => exact .opened
  | made found => exact .made (grows.hasTable found)
  | marked prepared => exact .marked (stays prepared)

theorem underway_ahead (database : Database) : Underway database (CheckStage.ahead database) := by
  unfold CheckStage.ahead
  split
  · exact .marked ‹_›
  · exact .started

namespace Site

structure Sound (site : Site) : Prop where
  hasTable : site.database.prepared = true → site.database.HasTable
  underway : ∀ caller, Underway site.database (site.pending caller)

theorem sound_fresh (place : Place) (planner : Planner) : (fresh place planner).Sound where
  hasTable := nofun
  underway _ := .idle

namespace Sound

variable {site : Site}

/-- The database changes, and a caller goes on to other stages. -/
theorem moved {after : Database} {stages : List CheckStage} (sound : site.Sound)
    (grows : Grows site.database after)
    (stays : site.database.prepared = true → after.prepared = true)
    (found : after.prepared = true → after.HasTable) (caller : Nat)
    (underway : Underway after stages) :
    Sound ⟨after, Function.update site.pending caller stages⟩ where
  hasTable := found
  underway := by
    apply (Function.forall_update_iff _ fun _ => Underway after).mpr
    refine ⟨underway, ?_⟩
    intro other _
    exact (sound.underway other).mono grows stays

/-- The database changes, but neither its mark nor the table that there may be. -/
theorem changed {after : Database} (sound : site.Sound) (grows : Grows site.database after)
    (same : after.prepared = site.database.prepared) : Sound { site with database := after } where
  hasTable prepared := grows.hasTable (sound.hasTable (same ▸ prepared))
  underway caller := (sound.underway caller).mono grows fun prepared => same.trans prepared

theorem advance {caller : Nat} {stage : CheckStage} {rest : List CheckStage} (sound : site.Sound)
    (pending : site.pending caller = stage :: rest) (fault : Option Fault) :
    (site.advance caller stage rest fault).2.Sound := by
  have underway := sound.underway caller
  rw [pending] at underway
  rcases site.advance_cases caller stage rest fault with
    ⟨after, keeps, ⟨error, same, unchanged⟩ | ⟨same, performed⟩⟩
  · rw [same]
    refine sound.moved keeps.grows unchanged.trans ?_ caller .idle
    intro prepared
    exact keeps.grows.hasTable (sound.hasTable (unchanged ▸ prepared))
  · rw [same]
    have unchanged (other : stage ≠ .mark) : after.prepared = site.database.prepared :=
      CheckStage.prepared_of_perform other performed
    have found (other : stage ≠ .mark) (prepared : after.prepared = true) : after.HasTable :=
      keeps.grows.hasTable (sound.hasTable (unchanged other ▸ prepared))
    cases underway with
    | started =>
        exact sound.moved keeps.grows (unchanged nofun).trans (found nofun) caller .opened
    | opened =>
        have made := CheckStage.hasTable_of_perform performed
        exact sound.moved keeps.grows (unchanged nofun).trans (fun _ => made) caller (.made made)
    | made there =>
        have prepared : after.prepared = true := by rw [← Except.ok.inj performed]
        have made := keeps.grows.hasTable there
        exact sound.moved keeps.grows (fun _ => prepared) (fun _ => made) caller (.marked prepared)
    | marked prepared =>
        exact sound.moved keeps.grows (unchanged nofun).trans (found nofun) caller .idle

theorem step (sound : site.Sound) (event : Event) : (site.step event).2.Sound := by
  cases event with
  | begin caller =>
      change (site.enter caller).Sound
      unfold enter
      cases site.pending caller with
      | nil => exact sound.moved (Keeps.refl _).grows id sound.hasTable caller (underway_ahead _)
      | cons stage rest => exact sound
  | proceed caller fault =>
      change (site.proceed caller fault).2.Sound
      unfold proceed
      cases pending : site.pending caller with
      | nil => exact sound
      | cons stage rest => exact sound.advance pending fault
  | append cells fault =>
      exact sound.changed (grows_append cells fault site.database)
        (prepared_append cells fault site.database)
  | select filter fault => exact sound
  | disturb place =>
      change (site.disturb place).Sound
      unfold disturb
      cases unreached : site.database.table with
      | ok table => exact sound
      | error error =>
          have none : Grows site.database { site.database with place } := by
            intro table reached
            rw [unreached] at reached
            contradiction
          exact sound.changed none rfl

end Sound

/-- Only an addition changes a table that is there. -/
theorem keeps_step {event : Event} (other : ¬event.Adds) (site : Site) :
    Keeps site.database (site.step event).2.database := by
  cases event with
  | begin caller =>
      change Keeps site.database (site.enter caller).database
      unfold enter
      split <;> exact Keeps.refl _
  | proceed caller fault =>
      change Keeps site.database (site.proceed caller fault).2.database
      unfold proceed
      cases site.pending caller with
      | nil => exact Keeps.refl _
      | cons stage rest =>
          rcases site.advance_cases caller stage rest fault with
            ⟨after, keeps, ⟨error, same, -⟩ | ⟨same, -⟩⟩
          · simp only [same]
            exact keeps
          · simp only [same]
            exact keeps
  | append cells fault => exact absurd trivial other
  | select filter fault => exact Keeps.refl _
  | disturb place =>
      intro table reached
      change (site.disturb place).database.table = .ok table
      unfold disturb
      rw [reached]
      exact reached

theorem grows_step (event : Event) (site : Site) :
    Grows site.database (site.step event).2.database := by
  cases event with
  | append cells fault => exact grows_append cells fault site.database
  | _ => exact (keeps_step id site).grows

/-! ## What a step answers -/

variable {site : Site} {event : Event}

/-- Only a caller that goes on with its check is told how the check has ended. -/
theorem advance_of_checked {outcome : Except StoreError Unit}
    (checked : (site.step event).1 = .checked outcome) :
    ∃ caller fault stage rest, event = .proceed caller fault ∧
      site.pending caller = stage :: rest ∧
        (site.step event) = site.advance caller stage rest fault := by
  cases event with
  | proceed caller fault =>
      change (site.proceed caller fault).1 = .checked outcome at checked
      cases pending : site.pending caller with
      | nil =>
          simp only [proceed, pending] at checked
          contradiction
      | cons stage rest => exact ⟨caller, fault, stage, rest, rfl, pending, step_proceed pending fault⟩
  | _ => contradiction

theorem prepared_of_checked_error {error : StoreError}
    (checked : (site.step event).1 = .checked (.error error)) :
    (site.step event).2.database.prepared = site.database.prepared := by
  rcases advance_of_checked checked with ⟨caller, fault, stage, rest, -, -, step⟩
  rw [step] at checked ⊢
  rcases site.advance_cases caller stage rest fault with
    ⟨after, -, ⟨_, same, unchanged⟩ | ⟨same, -⟩⟩
  · rw [same]
    exact unchanged
  · rw [same] at checked
    dsimp only at checked
    split at checked <;> cases checked

theorem Sound.hasTable_of_checked_ok (sound : site.Sound)
    (checked : (site.step event).1 = .checked (.ok ())) :
    (site.step event).2.database.HasTable := by
  rcases advance_of_checked checked with ⟨caller, fault, stage, rest, -, pending, step⟩
  have underway := sound.underway caller
  rw [pending] at underway
  rw [step] at checked ⊢
  rcases site.advance_cases caller stage rest fault with
    ⟨after, keeps, ⟨_, same, -⟩ | ⟨same, -⟩⟩
  · rw [same] at checked
    cases checked
  · rw [same] at checked ⊢
    cases underway with
    | marked prepared => exact keeps.grows.hasTable (sound.hasTable prepared)
    | _ => contradiction

/-- The mark is set only by a caller that has made the table before. -/
theorem Sound.marks (sound : site.Sound) (unset : site.database.prepared = false)
    (set : (site.step event).2.database.prepared = true) :
    ∃ caller fault, event = .proceed caller fault ∧ site.pending caller = [.mark, .query] := by
  have unchanged (same : (site.step event).2.database.prepared = site.database.prepared) : False := by
    rw [same, unset] at set
    contradiction
  cases event with
  | begin caller =>
      apply (unchanged ?_).elim
      change (site.enter caller).database.prepared = _
      unfold enter
      split <;> rfl
  | proceed caller fault =>
      refine ⟨caller, fault, rfl, ?_⟩
      have underway := sound.underway caller
      change (site.proceed caller fault).2.database.prepared = true at set
      change (site.proceed caller fault).2.database.prepared = _ → False at unchanged
      unfold proceed at unchanged
      cases pending : site.pending caller with
      | nil =>
          rw [pending] at unchanged
          exact (unchanged rfl).elim
      | cons stage rest =>
          rw [pending] at unchanged underway
          rcases site.advance_cases caller stage rest fault with
            ⟨after, -, ⟨error, same, kept⟩ | ⟨same, performed⟩⟩
          · simp only [same] at unchanged
            exact (unchanged kept).elim
          · simp only [same] at unchanged
            have marks : stage = .mark := by
              by_contra other
              exact unchanged (CheckStage.prepared_of_perform other performed)
            cases underway with
            | made found => rfl
            | _ => contradiction
  | append cells fault => exact (unchanged (prepared_append cells fault site.database)).elim
  | select filter fault => exact (unchanged rfl).elim
  | disturb place =>
      apply (unchanged ?_).elim
      change (site.disturb place).database.prepared = _
      unfold disturb
      split <;> rfl

theorem not_lacksTable (found : site.database.HasTable) (event : Event) :
    ¬(site.step event).1.LacksTable := by
  rcases found with ⟨table, reached⟩
  cases event with
  | append cells fault =>
      exact Action.spoiled_ne_missingTable (append_ne_missingTable reached cells)
  | select filter fault =>
      exact Action.spoiled_ne_missingTable (select_ne_missingTable reached filter)
  | proceed caller fault =>
      change ¬(site.proceed caller fault).1.LacksTable
      unfold proceed
      cases site.pending caller with
      | nil => exact id
      | cons stage rest =>
          rcases site.advance_cases caller stage rest fault with
            ⟨after, -, ⟨error, same, -⟩ | ⟨same, -⟩⟩
          · simp only [same]
            exact id
          · simp only [same]
            split <;> exact id
  | _ => exact id

end Site

/-! ## Runs -/

variable {site : Site} {events : List Event}

theorem of_mem_run (sound : site.Sound) {moment : Moment} (inside : moment ∈ run site events) :
    moment.site.Sound ∧ Grows site.database moment.site.database := by
  induction events generalizing site with
  | nil => contradiction
  | cons event rest ih =>
      rcases List.mem_cons.mp inside with rfl | behind
      · exact ⟨sound, (Keeps.refl _).grows⟩
      · rcases ih (sound.step event) behind with ⟨later, grows⟩
        exact ⟨later, (Site.grows_step event site).trans grows⟩

theorem pairwise_run (sound : site.Sound) (events : List Event) :
    (run site events).Pairwise fun earlier later =>
      Grows earlier.after.database later.site.database := by
  induction events generalizing site with
  | nil => exact .nil
  | cons event rest ih =>
      apply List.Pairwise.cons
      · intro later behind
        exact (of_mem_run (sound.step event) behind).2
      · exact ih (sound.step event)

/-! ## Checks without interruption -/

theorem CheckStage.attempt_untouched (stage : CheckStage) (database : Database) :
    stage.attempt.spoiled (stage.hit none) database = stage.attempt database := by
  cases stage <;> rfl

/-- A check that nothing gets in the way of ends as if its stages were performed at once. -/
theorem exists_performed {caller : Nat} {stage : CheckStage} {rest : List CheckStage}
    (pending : site.pending caller = stage :: rest) :
    ∃ moment ∈ run site (List.replicate (rest.length + 1) (.proceed caller none)),
      moment.reply = .checked (CheckStage.performAll (stage :: rest) site.database).1 ∧
        moment.after.database = (CheckStage.performAll (stage :: rest) site.database).2 := by
  induction rest generalizing site stage with
  | nil =>
      refine ⟨⟨site, .proceed caller none⟩, List.mem_cons_self, ?_⟩
      unfold Moment.reply Moment.after
      rw [Site.step_proceed pending]
      unfold Site.advance CheckStage.performAll
      rw [stage.attempt_untouched]
      unfold CheckStage.attempt
      cases stage.perform site.database with
      | ok after => exact ⟨rfl, rfl⟩
      | error error => exact ⟨rfl, rfl⟩
  | cons next rest ih =>
      have step := Site.step_proceed pending none
      unfold Site.advance at step
      rw [stage.attempt_untouched] at step
      unfold CheckStage.attempt at step
      unfold CheckStage.performAll
      cases performed : stage.perform site.database with
      | ok after =>
          rw [performed] at step
          have pendingNext : (site.step (.proceed caller none)).2.pending caller = next :: rest := by
            rw [step]
            exact Function.update_self ..
          rcases ih pendingNext with ⟨moment, inside, reply, database⟩
          refine ⟨moment, List.mem_cons_of_mem _ inside, ?_⟩
          rw [reply, database, step]
          exact ⟨rfl, rfl⟩
      | error error =>
          rw [performed] at step
          refine ⟨⟨site, .proceed caller none⟩, List.mem_cons_self, ?_⟩
          unfold Moment.reply Moment.after
          rw [step]
          exact ⟨rfl, rfl⟩

theorem exists_checked {caller : Nat} (idle : site.pending caller = []) :
    ∃ moment ∈ run site (.begin caller ::
        List.replicate (CheckStage.ahead site.database).length (.proceed caller none)),
      moment.reply = .checked site.database.check.1 ∧
        moment.after.database = site.database.check.2 := by
  have entered : site.enter caller = { site with
      pending := Function.update site.pending caller (CheckStage.ahead site.database) } := by
    unfold Site.enter
    rw [idle]
  have some : ∃ stage rest, CheckStage.ahead site.database = stage :: rest := by
    unfold CheckStage.ahead
    split <;> exact ⟨_, _, rfl⟩
  rcases some with ⟨stage, rest, ahead⟩
  have pending : (site.step (.begin caller)).2.pending caller = stage :: rest := by
    change (site.enter caller).pending caller = stage :: rest
    rw [entered, ← ahead]
    exact Function.update_self ..
  rcases exists_performed pending with ⟨moment, inside, reply, database⟩
  refine ⟨moment, List.mem_cons_of_mem _ ?_, ?_⟩
  · rw [ahead]
    exact inside
  · have same : (site.step (.begin caller)).2.database = site.database := by
      change (site.enter caller).database = site.database
      rw [entered]
    unfold Database.check
    rw [ahead, reply, database, same]
    exact ⟨rfl, rfl⟩

/-! ## Readiness -/

/-- What holds whenever something happens at a site. -/
structure Moment.Orderly (moment : Moment) : Prop where
  hasTable : moment.site.database.prepared = true → moment.site.database.HasTable
  hasTableAfter : moment.after.database.prepared = true → moment.after.database.HasTable
  /-- The mark is set by a caller that has made the table before, and by nobody else. -/
  marks : moment.site.database.prepared = false → moment.after.database.prepared = true →
    ∃ caller fault, moment.event = .proceed caller fault ∧
      moment.site.pending caller = [.mark, .query]
  /-- A check that fails does not touch the mark. -/
  unmarked : ∀ error, moment.reply = .checked (.error error) →
    moment.after.database.prepared = moment.site.database.prepared
  /-- As long as the mark is not set, the next check has all its stages ahead, and ends as they do
  if nothing gets in its way. -/
  retries : moment.after.database.prepared = false → ∀ caller, moment.after.pending caller = [] →
    ∃ retry ∈ run moment.after (.begin caller :: List.replicate 4 (.proceed caller none)),
      retry.reply = .checked (CheckStage.performAll [.directory, .table, .mark, .query]
          moment.after.database).1 ∧
        retry.after.database = (CheckStage.performAll [.directory, .table, .mark, .query]
          moment.after.database).2
  grows : Grows moment.site.database moment.after.database
  keeps : ¬moment.event.Adds → Keeps moment.site.database moment.after.database

theorem Site.Sound.orderly {moment : Moment} (sound : moment.site.Sound) : moment.Orderly where
  hasTable := sound.hasTable
  hasTableAfter := (sound.step moment.event).hasTable
  marks := sound.marks
  unmarked _ := Site.prepared_of_checked_error
  retries := by
    intro unset caller idle
    have ahead : CheckStage.ahead moment.after.database = [.directory, .table, .mark, .query] := by
      unfold CheckStage.ahead
      rw [unset]
      rfl
    have retry := exists_checked idle
    unfold Database.check at retry
    rw [ahead] at retry
    exact retry
  grows := Site.grows_step moment.event moment.site
  keeps other := Site.keeps_step other moment.site

/-- In every run from a database that is made at its first successful check, whatever goes wrong and
whoever checks at the same time: where the mark is set, there is the table; a check that fails does
not set it, and the next one goes through all stages again; no check takes a row away or changes
one; and behind a check that has succeeded no addition and no selection fails for want of the table.
-/
theorem deferred_ready (place : Place) (planner : Planner) (events : List Event) :
    (∀ moment ∈ run (.fresh place planner) events, moment.Orderly) ∧
      (run (.fresh place planner) events).Pairwise fun earlier later =>
        Grows earlier.after.database later.site.database ∧
          (earlier.reply = .checked (.ok ()) →
            later.site.database.HasTable ∧ ¬later.reply.LacksTable) := by
  have start := Site.sound_fresh place planner
  constructor
  · intro moment inside
    exact (of_mem_run start inside).1.orderly
  · apply (pairwise_run start events).imp_of_mem
    intro earlier later inside _ grows
    refine ⟨grows, ?_⟩
    intro checked
    have found := grows.hasTable ((of_mem_run start inside).1.hasTable_of_checked_ok checked)
    exact ⟨found, Site.not_lacksTable found later.event⟩

def samplePaymentCells : Cells where
  uniqueId := .text "tx-1"
  insertTimestamp := .text "2024-01-02 03:04:05.000"
  eventTimestamp := .text "2024-01-02 00:00:00.000"
  eventType := .text "payment"
  data := .text "\x7b\x7d"

/-- A check fails at a file in the place of the directory. Once the file is gone, two callers make
the table, and a row is added between the two. -/
def overlapping : List Event :=
  [.begin 0, .begin 1, .proceed 0 none, .disturb .missing, .begin 0, .proceed 1 none,
    .proceed 0 none, .proceed 1 none, .append samplePaymentCells none, .proceed 0 none,
    .proceed 1 none, .proceed 1 none, .select .everything none]

theorem deferred_ready_overlapping :
    (∃ failing ∈ run (.fresh .blocked .usual) overlapping,
        failing.reply = .checked (.error .fileExists) ∧
          failing.after.database.prepared = failing.site.database.prepared) ∧
      ∃ earlier later, (run (.fresh .blocked .usual) overlapping)[11]? = some earlier ∧
        (run (.fresh .blocked .usual) overlapping)[12]? = some later ∧
          earlier.reply = .checked (.ok ()) ∧ later.site.database.HasTable ∧
            ¬later.reply.LacksTable := by
  rcases deferred_ready .blocked .usual overlapping with ⟨orderly, pairs⟩
  constructor
  · have failing : ⟨_, .proceed 0 none⟩ ∈ run (.fresh .blocked .usual) overlapping :=
      .tail _ (.tail _ (.head _))
    exact ⟨_, failing, rfl, (orderly _ failing).unmarked _ rfl⟩
  · have behind := List.pairwise_iff_getElem.mp pairs 11 12 (by decide) (by decide) (by decide)
    exact ⟨_, _, rfl, rfl, rfl, behind.2 rfl⟩

end TransactionLedger.Store
