import TransactionLedger.Config.Settings

/-!
# Waiting for the store

At the start the store is checked until it answers. A failed check is repeated a limited number of
times, always after the same delay; the error of the last check is reported.
-/

namespace TransactionLedger.Store

/-- Checks until the first success, and after a failure at most `retries` times more. -/
def waitFor {State Error : Type} (check : State → Except Error Unit × State) :
    Nat → State → Except Error Unit × State
  | 0, state => check state
  | retries + 1, state =>
    match check state with
    | (.ok (), state) => (.ok (), state)
    | (.error _, state) => waitFor check retries state

/-- How often something is repeated, and the delay before each repetition. -/
structure Backoff where
  delayMs : UInt64
  repetitions : UInt64
  deriving DecidableEq, Repr

/-- The delays one after the other. -/
def Backoff.delays (backoff : Backoff) : List UInt64 :=
  List.replicate backoff.repetitions.toNat backoff.delayMs

/-- How often the check at the start is repeated. -/
def connectionBackoff (settings : Config.StartupSettings) : Backoff where
  delayMs := settings.retryIntervalMs
  repetitions := settings.maxAttempts

/-- Checks the store at the start, as often as the settings allow. -/
def waitForStore {State Error : Type} (settings : Config.StartupSettings)
    (check : State → Except Error Unit × State) (state : State) : Except Error Unit × State :=
  waitFor check (connectionBackoff settings).repetitions.toNat state

end TransactionLedger.Store
