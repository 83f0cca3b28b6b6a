import TransactionLedger.CommandLine.Arguments
import TransactionLedger.Config.Search
import TransactionLedger.Config.Template
import TransactionLedger.Http.Exchange
import TransactionLedger.Text.Quoted

/-!
# Running the command

What the command does up to the point where it serves requests: it answers what can be answered at
once, finds its settings, waits for the database and takes the address to listen on.
-/

namespace TransactionLedger.CommandLine

open Config

/-- What the command finds around it. -/
structure Surroundings where
  environment : Environment
  files : Files
  /-- A database can be opened at a path. -/
  reaches : String → Bool
  /-- Why the address with a host cannot be taken, if it cannot. -/
  refusal : String → Option String

/-- How the command ends, or that it goes on to serve. -/
inductive Outcome
  | printed (text : String)
  | refused (error : UsageError)
  | failed (message : String)
  | serving (settings : Settings)
  deriving Repr

/-- What is reported about a file without settings. -/
def configMessage : ConfigError → String
  | .unreadable path reason =>
    "Failed to read config file " ++ Text.diagnostic path ++ ": " ++ reason
  | .faulty path line column =>
    "Failed to parse config file " ++ Text.diagnostic path ++ ": TOML parse error at line " ++
      String.ofList (Text.decimal line) ++ ", column " ++ String.ofList (Text.decimal column)

def versionText : String :=
  serviceName ++ " " ++ Http.version ++ "\n"

/-- The settings that the arguments choose. -/
def findSettings (surroundings : Surroundings) : Option String → Except ConfigError Settings
  | some path => loadWithEnvironment surroundings.environment surroundings.files path
  | none => .ok (loadDefault surroundings.environment surroundings.files)

/-- What is reported when the database does not answer in time. -/
def unreachableMessage : String := "database never became reachable"

/-- Starts with settings: the database must be reached and the address must be free. -/
def start (surroundings : Surroundings) (settings : Settings) : Outcome :=
  if !surroundings.reaches settings.database.path then .failed unreachableMessage
  else
    match surroundings.refusal settings.api.host with
    | some reason => .failed ("IO error: " ++ reason)
    | none => .serving settings

def run (surroundings : Surroundings) (arguments : List String) : Outcome :=
  match Arguments.read arguments with
  | .version => .printed versionText
  | .refused error => .refused error
  | .run arguments =>
    if arguments.printDefault then
      .printed (defaultDocument (defaultDatabasePath surroundings.environment))
    else
      match findSettings surroundings arguments.configFile with
      | .ok settings => start surroundings settings
      | .error error => .failed (configMessage error)

namespace Outcome

def exitCode : Outcome → Nat
  | printed _ => 0
  | failed _ => 1
  | refused _ => 2
  | serving _ => 0

/-- What is written to standard output. -/
def standardOutput : Outcome → String
  | printed text => text
  | _ => ""

/-- The first line that is written to standard error. -/
def errorLine : Outcome → String
  | refused error => error.message
  | failed message => "Error: " ++ message
  | _ => ""

end Outcome

end TransactionLedger.CommandLine
