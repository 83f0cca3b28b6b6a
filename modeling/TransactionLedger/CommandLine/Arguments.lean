/-!
# Arguments

The arguments of the command: a configuration file, a request for the default configuration, and a
request for the version. Arguments are read from left to right; the first one that cannot be used is
reported, and a request for the version is answered at once.
-/

namespace TransactionLedger.CommandLine

/-- What the arguments ask for. -/
structure Arguments where
  configFile : Option String := none
  printDefault : Bool := false
  deriving DecidableEq, Repr

/-- Why arguments are refused. -/
inductive UsageError
  | unexpectedArgument (argument : String)
  | missingValue (option : String)
  | repeatedOption (option : String)
  | unexpectedValue (value option : String)
  deriving DecidableEq, Repr

namespace UsageError

def message : UsageError → String
  | unexpectedArgument argument => "error: unexpected argument '" ++ argument ++ "' found"
  | missingValue option =>
    "error: a value is required for '" ++ option ++ "' but none was supplied"
  | repeatedOption option =>
    "error: the argument '" ++ option ++ "' cannot be used multiple times"
  | unexpectedValue value option =>
    "error: unexpected value '" ++ value ++ "' for '" ++ option ++
      "' found; no more were expected"

end UsageError

/-- What becomes of the arguments. -/
inductive Reading
  | run (arguments : Arguments)
  | version
  | refused (error : UsageError)
  deriving DecidableEq, Repr

namespace Arguments

/-- How usage errors name the option with a file. -/
def configOption : String := "--config <CONFIG>"

/-- How usage errors name the request for the default configuration. -/
def printOption : String := "--print-default-config"

def withConfig (arguments : Arguments) (value : String) : Except UsageError Arguments :=
  if value.isEmpty then .error (.missingValue configOption)
  else if arguments.configFile.isSome then .error (.repeatedOption configOption)
  else .ok { arguments with configFile := some value }

/-- Asks for the default configuration. -/
def withPrint (arguments : Arguments) : Except UsageError Arguments :=
  if arguments.printDefault then .error (.repeatedOption printOption)
  else .ok { arguments with printDefault := true }

/-- What a single argument is. -/
inductive Form
  /-- The value follows as an argument of its own. -/
  | config
  | configValue (value : String)
  | print
  | version
  | flagValue (value option : String)
  | ending
  | unknown (name : String)
  deriving DecidableEq, Repr

/-- The form of an argument behind two dashes. -/
def longForm (name : List Char) : Form :=
  let option := String.ofList (name.takeWhile (· ≠ '='))
  let value? := match name.dropWhile (· ≠ '=') with
    | _ :: value => some (String.ofList value)
    | [] => none
  match option, value? with
  | "config", none => .config
  | "config", some value => .configValue value
  | "print-default-config", none => .print
  | "print-default-config", some value => .flagValue value printOption
  | "version", none => .version
  | "version", some value => .flagValue value "--version"
  | "", none => .ending
  | option, _ => .unknown ("--" ++ option)

/-- The form of an argument behind one dash. -/
def shortForm : List Char → Form
  | 'V' :: _ => .version
  | ['c'] => .config
  | 'c' :: '=' :: value => .configValue (String.ofList value)
  | 'c' :: value => .configValue (String.ofList value)
  | c :: _ => .unknown (String.ofList ['-', c])
  | [] => .unknown "-"

def form (argument : String) : Form :=
  match argument.toList with
  | '-' :: '-' :: name => longForm name
  | '-' :: name => shortForm name
  | _ => .unknown argument

/-- An argument can be the value of the option in front of it. -/
def isValue (argument : String) : Bool :=
  match argument.toList with
  | '-' :: _ :: _ => false
  | _ => true

/-- Reads the remaining arguments. -/
def readFrom (arguments : Arguments) : List String → Reading
  | [] => .run arguments
  | argument :: rest =>
    match form argument with
    | .version => .version
    | .unknown name => .refused (.unexpectedArgument name)
    | .flagValue value option => .refused (.unexpectedValue value option)
    | .ending =>
      match rest with
      | [] => .run arguments
      | next :: _ => .refused (.unexpectedArgument next)
    | .print =>
      match arguments.withPrint with
      | .ok arguments => readFrom arguments rest
      | .error error => .refused error
    | .configValue value =>
      match arguments.withConfig value with
      | .ok arguments => readFrom arguments rest
      | .error error => .refused error
    | .config =>
      match rest with
      | value :: rest =>
        if isValue value then
          match arguments.withConfig value with
          | .ok arguments => readFrom arguments rest
          | .error error => .refused error
        else .refused (.missingValue configOption)
      | [] => .refused (.missingValue configOption)

def read (arguments : List String) : Reading :=
  readFrom {} arguments

end Arguments

end TransactionLedger.CommandLine
