import TransactionLedger.CommandLine.Run

/-!
# The command

Answers what the arguments ask for, checks the settings and the place of the database, and leaves
serving requests to the program around the library.
-/

namespace TransactionLedger.CommandLine

open Config

/-- The environment variables that settings depend on. -/
def variableNames : List String :=
  ["HOME", "XDG_DATA_HOME", "XDG_CONFIG_HOME", "LISTEN_HOST", "LISTEN_PORT", "DB_PATH",
    "DB_CONNECTION_LIMIT", "DB_POOL_QUEUE_TIMEOUT", "DB_POOL_IDLE_TIME",
    "DB_CONNECT_RETRY_INTERVAL_MS", "DB_CONNECT_MAX_ATTEMPTS", "SOR_LOG_LEVEL", "SOR_LOG_FORMAT"]

/-- The variables that are set. -/
def readEnvironment : IO Environment := do
  let values ← variableNames.mapM fun name => do return (name, ← IO.getEnv name)
  return fun name => (values.find? fun value => value.1 == name).bind Prod.snd

/-- The text behind a path, or why there is none. -/
def readFile (path : String) : IO (Except String String) := do
  try
    return .ok (← IO.FS.readFile path)
  catch _ =>
    return .error noSuchFile

/-- The texts behind some paths. -/
def readFiles (paths : List String) : IO Files := do
  let texts ← paths.mapM fun path => do return (path, ← readFile path)
  return fun path =>
    match texts.find? fun text => text.1 == path with
    | some text => text.2
    | none => .error noSuchFile

/-- The directory in which a path lies. -/
def parentOf (path : String) : String :=
  "/".intercalate (path.splitOn "/").dropLast

/-- Makes the directory of the database, and tells whether that succeeded. -/
def makeDirectory (path : String) : IO Bool := do
  let parent := parentOf path
  if parent.isEmpty then return true
  try
    IO.FS.createDirAll parent
    return true
  catch _ =>
    return false

/-- What becomes of the command once its database has been tried. -/
def tryDatabase : Outcome → IO Outcome
  | .serving settings => do
    if ← makeDirectory settings.database.path then return .serving settings
    else return .failed unreachableMessage
  | outcome => return outcome

/-- The files that the arguments and the search path name. -/
def candidates (environment : Environment) (arguments : List String) : List String :=
  match Arguments.read arguments with
  | .run arguments => arguments.configFile.toList ++ searchPath environment
  | _ => []

/-- Runs the command and gives its exit code. -/
def execute (arguments : List String) : IO UInt32 := do
  let environment ← readEnvironment
  let files ← readFiles (candidates environment arguments)
  let outcome ← tryDatabase
    (run ⟨environment, files, fun _ => true, fun _ => none⟩ arguments)
  (← IO.getStdout).putStr outcome.standardOutput
  if outcome.exitCode ≠ 0 then IO.eprintln outcome.errorLine
  return UInt32.ofNat outcome.exitCode

end TransactionLedger.CommandLine

/-- Runs the command with its arguments. -/
def main (arguments : List String) : IO UInt32 :=
  TransactionLedger.CommandLine.execute arguments
