import TransactionLedger.Text.Digits

/-!
# Settings

What can be set for the service, with the values that hold where nothing is set. Only the place of
the database depends on the surroundings.
-/

namespace TransactionLedger.Config

/-- Settings of the interface. -/
structure ApiSettings where
  host : String
  port : UInt16
  maxBodySize : UInt64
  deriving DecidableEq, Repr

/-- Settings of the database. -/
structure DatabaseSettings where
  path : String
  poolSize : UInt32
  busyTimeoutMs : UInt32
  connectionTimeoutMs : UInt64
  idleTimeoutMs : UInt64
  deriving DecidableEq, Repr

/-- Settings of the check at the start. -/
structure StartupSettings where
  retryIntervalMs : UInt64
  maxAttempts : UInt64
  deriving DecidableEq, Repr

/-- Settings of the log. -/
structure LoggingSettings where
  level : String
  format : String
  deriving DecidableEq, Repr

/-- All settings. -/
structure Settings where
  api : ApiSettings
  database : DatabaseSettings
  startup : StartupSettings
  logging : LoggingSettings
  deriving DecidableEq, Repr

/-- Settings of the connections to the database; an absent idle timeout keeps them open. -/
structure PoolSettings where
  size : UInt32
  busyTimeoutMs : UInt32
  connectionTimeoutMs : UInt64
  idleTimeoutMs : Option UInt64
  deriving DecidableEq, Repr

/-- The settings that hold where nothing is set. -/
def Settings.default (databasePath : String) : Settings where
  api := ⟨"0.0.0.0", 3000, 1048576⟩
  database := ⟨databasePath, 10, 5000, 5000, 60000⟩
  startup := ⟨1000, 30⟩
  logging := ⟨"info", "pretty"⟩

/-- The address to listen on. -/
def ApiSettings.address (settings : ApiSettings) : String :=
  settings.host ++ ":" ++ String.ofList (Text.decimal settings.port.toNat)

/-- The settings of the connections: there is at least one, and no idle timeout means none. -/
def DatabaseSettings.pool (settings : DatabaseSettings) : PoolSettings where
  size := max settings.poolSize 1
  busyTimeoutMs := settings.busyTimeoutMs
  connectionTimeoutMs := settings.connectionTimeoutMs
  idleTimeoutMs := if settings.idleTimeoutMs = 0 then none else some settings.idleTimeoutMs

end TransactionLedger.Config
