import TransactionLedger.Config.Document
import TransactionLedger.Config.Environment

/-!
# Finding the settings

Settings come from a file that is named, or from the first file on a search path that exists and can
be read as settings. The environment has the last word.
-/

namespace TransactionLedger.Config

/-- Why a file gives no settings. -/
inductive ConfigError
  | unreadable (path reason : String)
  | faulty (path : String) (line column : Nat)
  deriving DecidableEq, Repr

/-- The files that can be read: the text behind a path, or why there is none. -/
abbrev Files := String → Except String String

/-- What is said about a path behind which there is nothing. -/
def noSuchFile : String := "No such file or directory (os error 2)"

/-- The settings in a file. -/
def load (environment : Environment) (files : Files) (path : String) :
    Except ConfigError Settings :=
  match files path with
  | .error reason => .error (.unreadable path reason)
  | .ok document =>
    match Settings.parse (defaultDatabasePath environment) document with
    | .ok settings => .ok settings
    | .error place =>
      let (line, column) := Toml.lineAndColumn document place
      .error (.faulty path line column)

/-- The settings in a file with those that the environment replaces. -/
def loadWithEnvironment (environment : Environment) (files : Files) (path : String) :
    Except ConfigError Settings :=
  (load environment files path).map fun settings => settings.override environment

/-- The settings without a file. -/
def fromEnvironment (environment : Environment) : Settings :=
  environment.defaults.override environment

/-- The files that are tried, in order. -/
def searchPath (environment : Environment) : List String :=
  let general := ["/etc/payments-sor/config.toml", "./config.toml"]
  match userDirectory? environment "XDG_CONFIG_HOME" ".config" with
  | some directory => joinPath (joinPath directory serviceName) "config.toml" :: general
  | none => general

/-- The settings in the first of the files that gives any; without one, those of the environment. -/
def firstLoadable (environment : Environment) (files : Files) : List String → Settings
  | [] => fromEnvironment environment
  | path :: rest =>
    match loadWithEnvironment environment files path with
    | .ok settings => settings
    | .error _ => firstLoadable environment files rest

/-- The settings on the search path. -/
def loadDefault (environment : Environment) (files : Files) : Settings :=
  firstLoadable environment files (searchPath environment)

end TransactionLedger.Config
