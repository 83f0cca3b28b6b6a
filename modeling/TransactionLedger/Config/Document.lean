import TransactionLedger.Config.Settings
import TransactionLedger.Toml.Parser

/-!
# Settings from documents

Each section of a document is a table with the fields of the section, or an array of their values in
order. Fields that are missing keep their values, unknown names do not matter, and a value of the
wrong kind is a fault at its place.
-/

namespace TransactionLedger.Config

open Toml (Value)

/-- A field of a section: its name, and how a value is taken over. -/
structure Field (Section : Type) where
  name : String
  take : Value → Section → Except Nat Section

/-- The text of a string. -/
def readText : Value → Except Nat String
  | .string _ text => .ok text
  | value => .error value.place

/-- An integer from zero up to a limit. -/
def readBounded (limit : Nat) : Value → Except Nat Nat
  | .integer place value =>
    if 0 ≤ value ∧ value < limit then .ok value.toNat else .error place
  | value => .error value.place

def readWord16 (value : Value) : Except Nat UInt16 :=
  UInt16.ofNat <$> readBounded UInt16.size value

def readWord32 (value : Value) : Except Nat UInt32 :=
  UInt32.ofNat <$> readBounded UInt32.size value

def readWord64 (value : Value) : Except Nat UInt64 :=
  UInt64.ofNat <$> readBounded UInt64.size value

/-- Takes over the members of a table. -/
def takeMembers {Section : Type} (fields : List (Field Section)) (initial : Section) :
    Toml.Members → Except Nat Section
  | [] => .ok initial
  | (key, value) :: rest => do
    match fields.find? fun field => field.name == key with
    | some field => takeMembers fields (← field.take value initial) rest
    | none => takeMembers fields initial rest

/-- Takes over the items of an array as the fields in their order. -/
def takeItems {Section : Type} (initial : Section) :
    List (Field Section) → List Value → Except Nat Section
  | field :: fields, item :: items => do
    takeItems (← field.take item initial) fields items
  | _, _ => .ok initial

/-- Reads a section. A time is taken for a section without fields. -/
def readSection {Section : Type} (fields : List (Field Section)) (initial : Section) :
    Value → Except Nat Section
  | .table _ _ members => takeMembers fields initial members
  | .array _ items => takeItems initial fields items
  | .tables _ items => takeItems initial fields items
  | .time _ => .ok initial
  | value => .error value.place

def apiFields : List (Field ApiSettings) :=
  [⟨"host", fun value settings => do return { settings with host := ← readText value }⟩,
    ⟨"port", fun value settings => do return { settings with port := ← readWord16 value }⟩,
    ⟨"max_body_size", fun value settings => do
      return { settings with maxBodySize := ← readWord64 value }⟩]

def databaseFields : List (Field DatabaseSettings) :=
  [⟨"path", fun value settings => do return { settings with path := ← readText value }⟩,
    ⟨"pool_size", fun value settings => do
      return { settings with poolSize := ← readWord32 value }⟩,
    ⟨"busy_timeout_ms", fun value settings => do
      return { settings with busyTimeoutMs := ← readWord32 value }⟩,
    ⟨"connection_timeout_ms", fun value settings => do
      return { settings with connectionTimeoutMs := ← readWord64 value }⟩,
    ⟨"idle_timeout_ms", fun value settings => do
      return { settings with idleTimeoutMs := ← readWord64 value }⟩]

def startupFields : List (Field StartupSettings) :=
  [⟨"retry_interval_ms", fun value settings => do
      return { settings with retryIntervalMs := ← readWord64 value }⟩,
    ⟨"max_attempts", fun value settings => do
      return { settings with maxAttempts := ← readWord64 value }⟩]

def loggingFields : List (Field LoggingSettings) :=
  [⟨"level", fun value settings => do return { settings with level := ← readText value }⟩,
    ⟨"format", fun value settings => do return { settings with format := ← readText value }⟩]

/-- The sections. A section that is present starts from the values that hold where nothing is set.
-/
def sections : List (Field Settings) :=
  [⟨"api", fun value settings => do
      return { settings with api := ← readSection apiFields settings.api value }⟩,
    ⟨"database", fun value settings => do
      return { settings with database := ← readSection databaseFields settings.database value }⟩,
    ⟨"bootstrap", fun value settings => do
      return { settings with startup := ← readSection startupFields settings.startup value }⟩,
    ⟨"logging", fun value settings => do
      return { settings with logging := ← readSection loggingFields settings.logging value }⟩]

/-- Reads the settings in a document; the place of the first fault is given back. -/
def Settings.parse (databasePath : String) (document : String) : Except Nat Settings := do
  takeMembers sections (Settings.default databasePath) (← Toml.parse document)

end TransactionLedger.Config
