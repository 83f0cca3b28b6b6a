import Mathlib.Order.Basic
import Mathlib.Order.Nat
import TransactionLedger.Store.Startup

/-!
# How long the store is waited for

A store answers each check from the state in which the check before has left it. Waiting follows
these answers up to the first success or up to the last check that is allowed, which is one more
than there are repetitions. A policy that gives a delay before each repetition allows as many as it
has delays.
-/

namespace TransactionLedger.Store

variable {State Error Delay : Type}

section Answers

variable (check : State → Except Error Unit × State)

/-- The state of a store after a number of checks. -/
def stateAfter (start : State) : Nat → State
  | 0 => start
  | calls + 1 => (check (stateAfter start calls)).2

/-- What a check finds; the checks are counted from zero. -/
def outcomeOf (start : State) (call : Nat) : Except Error Unit :=
  (check (stateAfter check start call)).1

theorem stateAfter_next (start : State) (calls : Nat) :
    stateAfter check (check start).2 calls = stateAfter check start (calls + 1) := by
  induction calls with
  | zero => rfl
  | succ calls ih => exact congrArg (fun state => (check state).2) ih

theorem outcomeOf_next (start : State) (call : Nat) :
    outcomeOf check (check start).2 call = outcomeOf check start (call + 1) :=
  congrArg (fun state => (check state).1) (stateAfter_next check start call)

end Answers

section Waiting

variable {check : State → Except Error Unit × State} {start : State} {retries : Nat}

theorem waitFor_of_ok (ready : outcomeOf check start 0 = .ok ()) (retries : Nat) :
    waitFor check retries start = (.ok (), (check start).2) := by
  have checked : check start = (.ok (), (check start).2) := Prod.ext ready rfl
  cases retries with
  | zero => exact checked
  | succ retries => rw [waitFor, checked]

/-- A failed check is forgotten as long as a repetition is left. -/
theorem waitFor_of_ne_ok (failed : outcomeOf check start 0 ≠ .ok ()) :
    waitFor check (retries + 1) start = waitFor check retries (check start).2 := by
  rw [waitFor]
  split
  · rename_i state checked
    exact absurd (congrArg Prod.fst checked) failed
  · rename_i error state checked
    exact congrArg (fun answer => waitFor check retries answer.2) checked.symm

/-- Waiting ends with the first success. -/
theorem waitFor_of_first {call : Nat} (allowed : call ≤ retries)
    (ready : outcomeOf check start call = .ok ())
    (failed : ∀ earlier < call, outcomeOf check start earlier ≠ .ok ()) :
    waitFor check retries start = (.ok (), stateAfter check start (call + 1)) := by
  induction call generalizing start retries with
  | zero => exact waitFor_of_ok ready retries
  | succ call ih =>
      obtain ⟨fewer, rfl⟩ := Nat.exists_eq_add_of_le' allowed
      have behind : waitFor check (fewer + call) (check start).2 =
          (.ok (), stateAfter check (check start).2 (call + 1)) := by
        apply ih
        · exact Nat.le_add_left call fewer
        · exact (outcomeOf_next check start call).trans ready
        · intro earlier before
          rw [outcomeOf_next]
          exact failed (earlier + 1) (Nat.succ_lt_succ before)
      rw [stateAfter_next] at behind
      exact (waitFor_of_ne_ok (failed 0 call.succ_pos)).trans behind

/-- Without a success the last check that is allowed is reported. -/
theorem waitFor_of_failures
    (failed : ∀ call ≤ retries, outcomeOf check start call ≠ .ok ()) :
    waitFor check retries start =
      (outcomeOf check start retries, stateAfter check start (retries + 1)) := by
  induction retries generalizing start with
  | zero => rfl
  | succ retries ih =>
      have behind : waitFor check retries (check start).2 =
          (outcomeOf check (check start).2 retries,
            stateAfter check (check start).2 (retries + 1)) := by
        apply ih
        intro call allowed
        rw [outcomeOf_next]
        exact failed (call + 1) (Nat.succ_le_succ allowed)
      rw [outcomeOf_next, stateAfter_next] at behind
      exact (waitFor_of_ne_ok (failed 0 (Nat.zero_le _))).trans behind

end Waiting

/-! ## Policies -/

/-- Checks until the first success: once at the start and once more behind each delay. -/
def waitBehind (check : State → Except Error Unit × State) :
    List Delay → State → Except Error Unit × State
  | [], state => check state
  | _ :: delays, state =>
    match check state with
    | (.ok (), state) => (.ok (), state)
    | (.error _, state) => waitBehind check delays state

theorem waitBehind_eq_waitFor (check : State → Except Error Unit × State) (delays : List Delay)
    (start : State) : waitBehind check delays start = waitFor check delays.length start := by
  induction delays generalizing start with
  | nil => rfl
  | cons delay delays ih =>
      rcases checked : check start with ⟨error | ready, state⟩
      · simp only [waitBehind, List.length_cons, waitFor, checked]
        exact ih state
      · simp only [waitBehind, List.length_cons, waitFor, checked]

/-- The store is waited for behind the delays that the settings ask for. -/
theorem waitForStore_eq_waitBehind (settings : Config.StartupSettings)
    (check : State → Except Error Unit × State) (start : State) :
    waitForStore settings check start =
      waitBehind check (connectionBackoff settings).delays start := by
  rw [waitBehind_eq_waitFor, Backoff.delays, List.length_replicate]
  rfl

/-! ## Sequences of outcomes -/

/-- A store that finds what a sequence says; its state is the number of checks. -/
def following (outcomes : Nat → Except Error Unit) (calls : Nat) : Except Error Unit × Nat :=
  (outcomes calls, calls + 1)

section Following

variable (outcomes : Nat → Except Error Unit) {retries : Nat}

theorem stateAfter_following (calls : Nat) : stateAfter (following outcomes) 0 calls = calls := by
  induction calls with
  | zero => rfl
  | succ calls ih => rw [stateAfter, following, ih]

theorem outcomeOf_following : outcomeOf (following outcomes) 0 = outcomes := by
  funext call
  rw [outcomeOf, stateAfter_following, following]

theorem waitFor_following_of_first {call : Nat} (allowed : call ≤ retries)
    (ready : outcomes call = .ok ()) (failed : ∀ earlier < call, outcomes earlier ≠ .ok ()) :
    waitFor (following outcomes) retries 0 = (.ok (), call + 1) := by
  have waited : waitFor (following outcomes) retries 0 =
      (.ok (), stateAfter (following outcomes) 0 (call + 1)) := by
    apply waitFor_of_first allowed
    · rwa [outcomeOf_following]
    · rwa [outcomeOf_following]
  rwa [stateAfter_following] at waited

theorem waitFor_following_of_failures (failed : ∀ call ≤ retries, outcomes call ≠ .ok ()) :
    waitFor (following outcomes) retries 0 = (outcomes retries, retries + 1) := by
  have waited : waitFor (following outcomes) retries 0 =
      (outcomeOf (following outcomes) 0 retries, stateAfter (following outcomes) 0 (retries + 1)) := by
    apply waitFor_of_failures
    rwa [outcomeOf_following]
  rwa [outcomeOf_following, stateAfter_following] at waited

/-- There is a first success among the checks that are allowed, or they all fail. -/
theorem first_or_failures (retries : Nat) :
    (∃ call ≤ retries, outcomes call = .ok () ∧ ∀ earlier < call, outcomes earlier ≠ .ok ()) ∨
      ∀ call ≤ retries, outcomes call ≠ .ok () := by
  by_cases succeeds : ∃ call ≤ retries, outcomes call = .ok ()
  · left
    classical
    have spec := Nat.find_spec succeeds
    refine ⟨Nat.find succeeds, spec.1, spec.2, ?_⟩
    intro earlier before ready
    exact Nat.find_min succeeds before ⟨before.le.trans spec.1, ready⟩
  · right
    intro call allowed ready
    exact succeeds ⟨call, allowed, ready⟩

theorem isOk_following_iff :
    (waitFor (following outcomes) retries 0).1 = .ok () ↔
      ∃ call ≤ retries, outcomes call = .ok () := by
  rcases first_or_failures outcomes retries with ⟨call, allowed, ready, failed⟩ | failed
  · rw [waitFor_following_of_first outcomes allowed ready failed]
    exact iff_of_true rfl ⟨call, allowed, ready⟩
  · rw [waitFor_following_of_failures outcomes failed]
    apply iff_of_false (failed retries le_rfl)
    rintro ⟨call, allowed, ready⟩
    exact failed call allowed ready

/-- A store with these outcomes is checked as often, and with the same result. -/
theorem waitFor_of_outcomes {check : State → Except Error Unit × State} {start : State}
    (same : outcomeOf check start = outcomes) :
    waitFor check retries start = ((waitFor (following outcomes) retries 0).1,
      stateAfter check start (waitFor (following outcomes) retries 0).2) := by
  subst same
  rcases first_or_failures (outcomeOf check start) retries with
    ⟨call, allowed, ready, failed⟩ | failed
  · rw [waitFor_following_of_first _ allowed ready failed]
    exact waitFor_of_first allowed ready failed
  · rw [waitFor_following_of_failures _ failed]
    exact waitFor_of_failures failed

/-- The store is checked up to its first success, or once more than there are repetitions, and not
again. Waiting succeeds exactly if one of these checks does, and otherwise reports the last one as
it is. Every store with these outcomes is left as that many checks leave it, whatever the delays
before the repetitions are, and so is a store at the start, whose settings say how many repetitions
there are. -/
theorem waitFor_following (retries : Nat) :
    (∀ call ≤ retries, outcomes call = .ok () → (∀ earlier < call, outcomes earlier ≠ .ok ()) →
        waitFor (following outcomes) retries 0 = (.ok (), call + 1)) ∧
      ((∀ call ≤ retries, outcomes call ≠ .ok ()) →
        waitFor (following outcomes) retries 0 = (outcomes retries, retries + 1)) ∧
      ((waitFor (following outcomes) retries 0).1 = .ok () ↔
        ∃ call ≤ retries, outcomes call = .ok ()) ∧
      (∀ (State Delay : Type) (check : State → Except Error Unit × State) (start : State)
        (delays : List Delay), outcomeOf check start = outcomes → delays.length = retries →
          waitBehind check delays start = ((waitFor (following outcomes) retries 0).1,
            stateAfter check start (waitFor (following outcomes) retries 0).2)) ∧
      ∀ (State : Type) (check : State → Except Error Unit × State) (start : State)
        (settings : Config.StartupSettings), outcomeOf check start = outcomes →
          settings.maxAttempts.toNat = retries →
            waitForStore settings check start = ((waitFor (following outcomes) retries 0).1,
              stateAfter check start (waitFor (following outcomes) retries 0).2) := by
  refine ⟨?_, ?_, isOk_following_iff outcomes, ?_, ?_⟩
  · intro call allowed ready failed
    exact waitFor_following_of_first outcomes allowed ready failed
  · intro failed
    exact waitFor_following_of_failures outcomes failed
  · intro State Delay check start delays same enough
    rw [waitBehind_eq_waitFor, enough]
    exact waitFor_of_outcomes outcomes same
  · intro State check start settings same enough
    rw [waitForStore, connectionBackoff, enough]
    exact waitFor_of_outcomes outcomes same

end Following

/-- Two failures, then successes. -/
def recovering (call : Nat) : Except Nat Unit :=
  if call < 2 then .error call else .ok ()

/-- Five repetitions are more than this store needs, and one is not enough. -/
theorem waitFor_following_recovering :
    waitFor (following recovering) 5 0 = (.ok (), 3) ∧
      waitFor (following recovering) 1 0 = (.error 1, 2) := by
  constructor
  · exact (waitFor_following recovering 5).1 2 (by decide) rfl (by decide)
  · exact (waitFor_following recovering 1).2.1 (by decide)

end TransactionLedger.Store
