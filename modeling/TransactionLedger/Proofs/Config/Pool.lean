import TransactionLedger.Proofs.Config.Precedence

/-!
# Whether the connections can be set up

The connections are set up with at least one of them, and with timeouts that are absent or positive.
The settings of the connections keep a number and an idle timeout of zero away from that, but not a
connection timeout of zero.
-/

namespace TransactionLedger.Config

/-- What has to hold of the settings of the connections when these are set up. -/
structure PoolSettings.Buildable (pool : PoolSettings) : Prop where
  size : 1 ≤ pool.size
  connectionTimeout : 0 < pool.connectionTimeoutMs
  idleTimeout : ∀ timeout ∈ pool.idleTimeoutMs, 0 < timeout

namespace DatabaseSettings

variable (settings : DatabaseSettings)

theorem one_le_size_pool : 1 ≤ settings.pool.size := by
  change 1 ≤ if settings.poolSize ≤ 1 then 1 else settings.poolSize
  split
  · exact UInt32.le_refl 1
  · rename_i large
    exact UInt32.le_of_lt (UInt32.not_le.mp large)

theorem idleTimeoutMs_pool_pos : ∀ timeout ∈ settings.pool.idleTimeoutMs, 0 < timeout := by
  intro timeout present
  rw [pool] at present
  split at present
  · cases present
  · rename_i nonzero
    rcases Option.some.inj present with rfl
    exact UInt64.pos_iff_ne_zero.mpr nonzero

theorem buildable_pool_iff : settings.pool.Buildable ↔ settings.connectionTimeoutMs ≠ 0 :=
  ⟨fun buildable => UInt64.pos_iff_ne_zero.mp buildable.connectionTimeout, fun nonzero =>
    ⟨settings.one_le_size_pool, UInt64.pos_iff_ne_zero.mpr nonzero,
      settings.idleTimeoutMs_pool_pos⟩⟩

end DatabaseSettings

/-- The environment or, if it does not replace the setting, the document asks for a connection
timeout of zero. -/
inductive WaitsForNothing (document : Toml.Members) (environment : Environment) : Prop
  | replaced (zero : Setting.connectionTimeout.Replaced environment (.number 0))
  | given (kept : ∀ datum, ¬ Setting.connectionTimeout.Replaced environment datum)
    (zero : Setting.connectionTimeout.Given document (.number 0))

section Document

variable {databasePath text : String} {document : Toml.Members} {settings : Settings}

theorem connectionTimeoutMs_override_eq_zero_iff
    (parsed : Settings.parse databasePath text = .ok settings)
    (read : Toml.parse text = .ok document) (environment : Environment) :
    (settings.override environment).database.connectionTimeoutMs = 0 ↔
      WaitsForNothing document environment := by
  have value : (settings.override environment).database.connectionTimeoutMs = 0 ↔
      (Setting.connectionTimeout.replacement? environment).getD
        (Setting.connectionTimeout.value settings) = .number 0 := by
    rw [← Setting.value_override, Setting.value, Datum.number.injEq, ← UInt64.toNat_inj]
    rfl
  rw [value]
  rcases value_of_parse parsed read .connectionTimeout with ⟨given, default⟩
  constructor
  · intro zero
    cases replaced : Setting.connectionTimeout.replacement? environment with
    | some datum =>
        rw [replaced, Option.getD_some] at zero
        exact .replaced (Setting.replacement?_eq_some_iff.mp (zero ▸ replaced))
    | none =>
        rw [replaced, Option.getD_none] at zero
        have kept (datum : Datum) : ¬ Setting.connectionTimeout.Replaced environment datum := by
          rw [← Setting.replacement?_eq_some_iff, replaced]
          exact nofun
        by_cases present : ∃ datum, Setting.connectionTimeout.Given document datum
        · rcases present with ⟨datum, here⟩
          exact .given kept ((given datum here).symm.trans zero ▸ here)
        · rw [default (not_exists.mp present)] at zero
          cases zero
  · rintro (replaced | ⟨kept, here⟩)
    · rw [Setting.replacement?_eq_some_iff.mpr replaced, Option.getD_some]
    · rw [replacement?_eq_none kept, Option.getD_none, given _ here]

/-- With settings from a document and the environment, the connections can be set up unless one of
these asks for a connection timeout of zero. Their number and their idle timeout never hinder it. -/
theorem buildable_pool_override (parsed : Settings.parse databasePath text = .ok settings)
    (read : Toml.parse text = .ok document) (environment : Environment) :
    1 ≤ (settings.override environment).database.pool.size ∧
      (∀ timeout ∈ (settings.override environment).database.pool.idleTimeoutMs, 0 < timeout) ∧
      ((settings.override environment).database.pool.Buildable ↔
        ¬ WaitsForNothing document environment) := by
  refine ⟨DatabaseSettings.one_le_size_pool _, DatabaseSettings.idleTimeoutMs_pool_pos _, ?_⟩
  rw [DatabaseSettings.buildable_pool_iff, Ne,
    connectionTimeoutMs_override_eq_zero_iff parsed read environment]

end Document

/-- A document that asks for zeros. -/
def zeroDocument : String :=
  "[database]\npool_size = 0\nconnection_timeout_ms = 0\nidle_timeout_ms = 0\n"

/-- An environment that sets the connection timeout only. -/
def timeoutEnvironment (timeout : String) : Environment := fun name =>
  if name = "DB_POOL_QUEUE_TIMEOUT" then some timeout else none

/-- The connections can be set up if the environment makes up for the one zero that matters. -/
theorem buildable_pool_override_zeros :
    ∃ settings, Settings.parse "sor.db" zeroDocument = .ok settings ∧
      (settings.override (timeoutEnvironment "250")).database.pool.Buildable ∧
      ¬ (settings.override (timeoutEnvironment "soon")).database.pool.Buildable := by
  let settings : Settings :=
    { Settings.default "sor.db" with database := ⟨"sor.db", 0, 5000, 0, 0⟩ }
  have parsed : Settings.parse "sor.db" zeroDocument = .ok settings := by decide +kernel
  rcases exists_parse_iff.mp ⟨settings, parsed⟩ with ⟨document, read, -⟩
  have zero (timeout : String) :=
    connectionTimeoutMs_override_eq_zero_iff parsed read (timeoutEnvironment timeout)
  have buildable (timeout : String) :=
    (buildable_pool_override parsed read (timeoutEnvironment timeout)).2.2
  refine ⟨settings, parsed, ?_, ?_⟩
  · rw [buildable, ← zero]
    decide +kernel
  · rw [buildable, ← zero, not_not]
    decide +kernel

/-- A connection timeout of zero from the environment is not kept away from setting up. -/
theorem not_forall_buildable_pool :
    ¬ ∀ databasePath text settings environment,
      Settings.parse databasePath text = .ok settings →
        (settings.override environment).database.pool.Buildable := by
  intro always
  have buildable := always "sor.db" "" (Settings.default "sor.db") (timeoutEnvironment "0")
    (by decide +kernel)
  exact (DatabaseSettings.buildable_pool_iff _).mp buildable (by decide +kernel)

end TransactionLedger.Config
