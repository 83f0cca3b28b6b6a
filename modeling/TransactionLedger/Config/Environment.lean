import TransactionLedger.Config.Settings
import TransactionLedger.Text.Blank
import TransactionLedger.Text.Digits

/-!
# Settings from the environment

Each variable replaces one setting. A text is taken as it is; a number is taken only if it is
written in ASCII digits, with blanks around it and a plus sign in front at most, and fits its
setting. The environment also decides where the database lies when nothing else does.
-/

namespace TransactionLedger.Config

/-- The environment: the value of each variable that is set. -/
abbrev Environment := String → Option String

/-- The number that a text denotes, if it is below a limit. -/
def numberOf? (limit : Nat) (text : String) : Option Nat :=
  let digits := match Text.trim text.toList with
    | '+' :: rest => rest
    | trimmed => trimmed
  let value := Text.naturalOf digits
  if !digits.isEmpty && digits.all Text.isDigit && value < limit then some value else none

/-- The number of 16 bits that a variable gives. -/
def word16 (given : Option String) (otherwise : UInt16) : UInt16 :=
  ((given.bind (numberOf? UInt16.size)).map UInt16.ofNat).getD otherwise

/-- The number of 32 bits that a variable gives. -/
def word32 (given : Option String) (otherwise : UInt32) : UInt32 :=
  ((given.bind (numberOf? UInt32.size)).map UInt32.ofNat).getD otherwise

/-- The number of 64 bits that a variable gives. -/
def word64 (given : Option String) (otherwise : UInt64) : UInt64 :=
  ((given.bind (numberOf? UInt64.size)).map UInt64.ofNat).getD otherwise

/-- The settings with those that the environment replaces. -/
def Settings.override (settings : Settings) (environment : Environment) : Settings where
  api :=
    { settings.api with
      host := (environment "LISTEN_HOST").getD settings.api.host
      port := word16 (environment "LISTEN_PORT") settings.api.port }
  database :=
    { settings.database with
      path := (environment "DB_PATH").getD settings.database.path
      poolSize := word32 (environment "DB_CONNECTION_LIMIT") settings.database.poolSize
      connectionTimeoutMs :=
        word64 (environment "DB_POOL_QUEUE_TIMEOUT") settings.database.connectionTimeoutMs
      idleTimeoutMs := word64 (environment "DB_POOL_IDLE_TIME") settings.database.idleTimeoutMs }
  startup :=
    { retryIntervalMs :=
        word64 (environment "DB_CONNECT_RETRY_INTERVAL_MS") settings.startup.retryIntervalMs
      maxAttempts := word64 (environment "DB_CONNECT_MAX_ATTEMPTS") settings.startup.maxAttempts }
  logging :=
    { level := (environment "SOR_LOG_LEVEL").getD settings.logging.level
      format := (environment "SOR_LOG_FORMAT").getD settings.logging.format }

/-- A path below a directory. -/
def joinPath (directory name : String) : String :=
  if name.startsWith "/" then name
  else if directory.isEmpty || directory.endsWith "/" then directory ++ name
  else directory ++ "/" ++ name

/-- The home directory that the environment names. Where `HOME` is unset or empty, the system's list
of users may still name one; that list lies outside the model, and no directory is taken from it. -/
def homeDirectory? (environment : Environment) : Option String :=
  match environment "HOME" with
  | some home => if home.isEmpty then none else some home
  | none => none

/-- A directory that a variable gives as an absolute path, or else one below the home directory. -/
def userDirectory? (environment : Environment) (name below : String) : Option String :=
  match environment name with
  | some path =>
    if path.startsWith "/" then some path
    else (homeDirectory? environment).map fun home => joinPath home below
  | none => (homeDirectory? environment).map fun home => joinPath home below

/-- The name of the directories of the service. -/
def serviceName : String := "payments-sor"

/-- The place of the database when nothing else is set. -/
def defaultDatabasePath (environment : Environment) : String :=
  match userDirectory? environment "XDG_DATA_HOME" ".local/share" with
  | some directory => joinPath (joinPath directory serviceName) "sor.db"
  | none => "./sor_data/sor.db"

/-- The settings that hold in an environment where nothing is set. -/
def Environment.defaults (environment : Environment) : Settings :=
  Settings.default (defaultDatabasePath environment)

end TransactionLedger.Config
