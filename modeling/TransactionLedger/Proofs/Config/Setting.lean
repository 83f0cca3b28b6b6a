import Mathlib.Tactic.SplitIfs
import TransactionLedger.Config.Document
import TransactionLedger.Proofs.Outcome

/-!
# Settings one by one

Every setting has a place in a document, holds a text or a number below a limit, and can be replaced
on its own. The sections of a document are lists of such settings.
-/

namespace TransactionLedger.Config

open Toml (Value)

/-- What a setting holds. -/
inductive Datum
  | text (text : String)
  | number (value : Nat)
  deriving DecidableEq, Repr

/-- What a setting can hold. -/
inductive Kind
  | text
  | number (limit : Nat)
  deriving DecidableEq, Repr

/-- The value of a document says something that is of the kind. -/
inductive Kind.Reads : Kind → Value → Datum → Prop
  | text {place : Nat} {text : String} : Reads .text (.string place text) (.text text)
  | number {limit place value : Nat} (small : value < limit) :
      Reads (.number limit) (.integer place value) (.number value)

theorem Kind.Reads.unique {kind : Kind} {value : Value} {datum other : Datum}
    (reads : kind.Reads value datum) (otherReads : kind.Reads value other) : datum = other := by
  cases reads <;> cases otherReads <;> rfl

/-- The sections of a document. -/
inductive Heading
  | api
  | database
  | startup
  | logging
  deriving DecidableEq, Repr

/-- All settings. -/
inductive Setting
  | host
  | port
  | maxBodySize
  | databasePath
  | poolSize
  | busyTimeout
  | connectionTimeout
  | idleTimeout
  | retryInterval
  | maxAttempts
  | logLevel
  | logFormat
  deriving DecidableEq, Repr

namespace Heading

def name : Heading → String
  | api => "api"
  | database => "database"
  | startup => "bootstrap"
  | logging => "logging"

/-- The settings of a section, in the order in which an array gives them. -/
def settings : Heading → List Setting
  | api => [.host, .port, .maxBodySize]
  | database => [.databasePath, .poolSize, .busyTimeout, .connectionTimeout, .idleTimeout]
  | startup => [.retryInterval, .maxAttempts]
  | logging => [.logLevel, .logFormat]

def all : List Heading :=
  [api, database, startup, logging]

theorem mem_all (heading : Heading) : heading ∈ all := by
  cases heading <;> decide

theorem name_injective {heading other : Heading} (same : heading.name = other.name) :
    heading = other := by
  cases heading <;> cases other <;> first | rfl | exact absurd same (by decide)

end Heading

namespace Setting

/-- The section of a setting. -/
def heading : Setting → Heading
  | host | port | maxBodySize => .api
  | databasePath | poolSize | busyTimeout | connectionTimeout | idleTimeout => .database
  | retryInterval | maxAttempts => .startup
  | logLevel | logFormat => .logging

/-- The name of a setting in its section. -/
def name : Setting → String
  | host => "host"
  | port => "port"
  | maxBodySize => "max_body_size"
  | databasePath => "path"
  | poolSize => "pool_size"
  | busyTimeout => "busy_timeout_ms"
  | connectionTimeout => "connection_timeout_ms"
  | idleTimeout => "idle_timeout_ms"
  | retryInterval => "retry_interval_ms"
  | maxAttempts => "max_attempts"
  | logLevel => "level"
  | logFormat => "format"

def kind : Setting → Kind
  | host | databasePath | logLevel | logFormat => .text
  | port => .number UInt16.size
  | poolSize | busyTimeout => .number UInt32.size
  | maxBodySize | connectionTimeout | idleTimeout | retryInterval | maxAttempts =>
    .number UInt64.size

/-- What a setting is. -/
def value : Setting → Settings → Datum
  | host, settings => .text settings.api.host
  | port, settings => .number settings.api.port.toNat
  | maxBodySize, settings => .number settings.api.maxBodySize.toNat
  | databasePath, settings => .text settings.database.path
  | poolSize, settings => .number settings.database.poolSize.toNat
  | busyTimeout, settings => .number settings.database.busyTimeoutMs.toNat
  | connectionTimeout, settings => .number settings.database.connectionTimeoutMs.toNat
  | idleTimeout, settings => .number settings.database.idleTimeoutMs.toNat
  | retryInterval, settings => .number settings.startup.retryIntervalMs.toNat
  | maxAttempts, settings => .number settings.startup.maxAttempts.toNat
  | logLevel, settings => .text settings.logging.level
  | logFormat, settings => .text settings.logging.format

theorem mem_settings_heading (setting : Setting) : setting ∈ setting.heading.settings := by
  cases setting <;> decide

theorem heading_of_mem {heading : Heading} {setting : Setting}
    (inside : setting ∈ heading.settings) : setting.heading = heading := by
  cases heading <;> cases setting <;> first | rfl | exact absurd inside (by decide)

theorem name_injective {setting other : Setting} (same : setting.name = other.name) :
    setting = other := by
  cases setting <;> cases other <;> first | rfl | exact absurd same (by decide)

theorem nodup_settings (heading : Heading) : heading.settings.Nodup := by
  cases heading <;> decide

/-- The settings with one of them replaced. A value of the wrong kind replaces nothing. -/
def put : Setting → Datum → Settings → Settings
  | host, .text text, settings => { settings with api := { settings.api with host := text } }
  | port, .number value, settings =>
    { settings with api := { settings.api with port := .ofNat value } }
  | maxBodySize, .number value, settings =>
    { settings with api := { settings.api with maxBodySize := .ofNat value } }
  | databasePath, .text text, settings =>
    { settings with database := { settings.database with path := text } }
  | poolSize, .number value, settings =>
    { settings with database := { settings.database with poolSize := .ofNat value } }
  | busyTimeout, .number value, settings =>
    { settings with database := { settings.database with busyTimeoutMs := .ofNat value } }
  | connectionTimeout, .number value, settings =>
    { settings with database := { settings.database with connectionTimeoutMs := .ofNat value } }
  | idleTimeout, .number value, settings =>
    { settings with database := { settings.database with idleTimeoutMs := .ofNat value } }
  | retryInterval, .number value, settings =>
    { settings with startup := { settings.startup with retryIntervalMs := .ofNat value } }
  | maxAttempts, .number value, settings =>
    { settings with startup := { settings.startup with maxAttempts := .ofNat value } }
  | logLevel, .text text, settings =>
    { settings with logging := { settings.logging with level := text } }
  | logFormat, .text text, settings =>
    { settings with logging := { settings.logging with format := text } }
  | _, _, settings => settings

/-- Replacing a setting leaves the others as they are. -/
theorem value_put_of_ne {setting other : Setting} (different : other ≠ setting) (datum : Datum)
    (settings : Settings) : other.value (setting.put datum settings) = other.value settings := by
  cases setting <;> cases datum <;> cases other <;> first | rfl | exact absurd rfl different

theorem value_put {setting : Setting} {value : Value} {datum : Datum}
    (reads : setting.kind.Reads value datum) (settings : Settings) :
    setting.value (setting.put datum settings) = datum := by
  cases setting <;> rcases reads with ⟨⟩ | ⟨small⟩ <;> first
    | rfl
    | exact congrArg Datum.number (UInt16.toNat_ofNat_of_lt small)
    | exact congrArg Datum.number (UInt32.toNat_ofNat_of_lt small)
    | exact congrArg Datum.number (UInt64.toNat_ofNat_of_lt small)

theorem settings_ext {settings other : Settings}
    (same : ∀ setting : Setting, setting.value settings = setting.value other) :
    settings = other := by
  have text {first second : String} (same : Datum.text first = .text second) : first = second :=
    Datum.text.inj same
  have number {first second : Nat} (same : Datum.number first = .number second) :
      first = second :=
    Datum.number.inj same
  rcases settings with ⟨⟨host, port, maxBodySize⟩,
    ⟨path, poolSize, busyTimeout, connectionTimeout, idleTimeout⟩,
    ⟨retryInterval, maxAttempts⟩, ⟨level, format⟩⟩
  rcases other with ⟨⟨otherHost, otherPort, otherMaxBodySize⟩,
    ⟨otherPath, otherPoolSize, otherBusyTimeout, otherConnectionTimeout, otherIdleTimeout⟩,
    ⟨otherRetryInterval, otherMaxAttempts⟩, ⟨otherLevel, otherFormat⟩⟩
  obtain rfl : host = otherHost := text (same .host)
  obtain rfl : port = otherPort := UInt16.toNat_inj.mp (number (same .port))
  obtain rfl : maxBodySize = otherMaxBodySize := UInt64.toNat_inj.mp (number (same .maxBodySize))
  obtain rfl : path = otherPath := text (same .databasePath)
  obtain rfl : poolSize = otherPoolSize := UInt32.toNat_inj.mp (number (same .poolSize))
  obtain rfl : busyTimeout = otherBusyTimeout := UInt32.toNat_inj.mp (number (same .busyTimeout))
  obtain rfl : connectionTimeout = otherConnectionTimeout :=
    UInt64.toNat_inj.mp (number (same .connectionTimeout))
  obtain rfl : idleTimeout = otherIdleTimeout := UInt64.toNat_inj.mp (number (same .idleTimeout))
  obtain rfl : retryInterval = otherRetryInterval :=
    UInt64.toNat_inj.mp (number (same .retryInterval))
  obtain rfl : maxAttempts = otherMaxAttempts := UInt64.toNat_inj.mp (number (same .maxAttempts))
  obtain rfl : level = otherLevel := text (same .logLevel)
  obtain rfl : format = otherFormat := text (same .logFormat)
  rfl

end Setting

/-! ## Sections as lists of settings -/

theorem readText_eq_ok_iff {value : Value} {text : String} :
    readText value = .ok text ↔ ∃ place, value = .string place text := by
  cases value <;> simp [readText]

theorem readBounded_eq_ok_iff {limit number : Nat} {value : Value} :
    readBounded limit value = .ok number ↔
      number < limit ∧ ∃ place, value = .integer place number := by
  cases value with
  | integer place content =>
      simp only [readBounded]
      split_ifs with bounds
      · simp only [Except.ok.injEq, Value.integer.injEq, exists_eq_left']
        omega
      · simp only [Value.integer.injEq, exists_eq_left', false_iff]
        omega
  | _ => simp [readBounded]

/-- What a value says to a setting of a kind. -/
def Kind.read : Kind → Value → Except Nat Datum
  | .text, value => (readText value).map .text
  | .number limit, value => (readBounded limit value).map .number

theorem Kind.read_eq_ok_iff {kind : Kind} {value : Value} {datum : Datum} :
    kind.read value = .ok datum ↔ kind.Reads value datum := by
  constructor
  · cases kind with
    | text =>
        intro read
        rcases map_eq_ok_iff.mp read with ⟨text, taken, rfl⟩
        rcases readText_eq_ok_iff.mp taken with ⟨place, rfl⟩
        exact .text
    | number limit =>
        intro read
        rcases map_eq_ok_iff.mp read with ⟨number, taken, rfl⟩
        rcases readBounded_eq_ok_iff.mp taken with ⟨small, place, rfl⟩
        exact .number small
  · rintro (_ | small)
    · rfl
    · exact map_eq_ok_iff.mpr ⟨_, readBounded_eq_ok_iff.mpr ⟨small, _, rfl⟩, rfl⟩

/-- A setting as a field of its section. -/
def Setting.field (setting : Setting) : Field Settings :=
  ⟨setting.name, fun value settings => do
    return setting.put (← setting.kind.read value) settings⟩

/-- A section as a field of the document. -/
def Heading.field (heading : Heading) : Field Settings :=
  ⟨heading.name, fun value settings =>
    readSection (heading.settings.map Setting.field) settings value⟩

section Within

variable {Section : Type} (get : Settings → Section) (put : Section → Settings → Settings)

/-- A field of a section as one of all settings. -/
def Field.within (field : Field Section) : Field Settings :=
  ⟨field.name, fun value settings => do return put (← field.take value (get settings)) settings⟩

/-- A section can be taken out of the settings and put back. -/
structure IsPart : Prop where
  put_get : ∀ settings, put (get settings) settings = settings
  get_put : ∀ part settings, get (put part settings) = part
  put_put : ∀ part other settings, put other (put part settings) = put other settings

variable {get put} (isPart : IsPart get put)

include isPart

theorem takeMembers_within (fields : List (Field Section)) (members : Toml.Members)
    (settings : Settings) :
    takeMembers (fields.map (Field.within get put)) settings members = do
      return put (← takeMembers fields (get settings) members) settings := by
  induction members generalizing settings with
  | nil => simp [takeMembers, isPart.put_get]
  | cons member rest ih =>
      rcases member with ⟨key, value⟩
      have names : ((fun field : Field Settings => field.name == key) ∘ Field.within get put) =
          fun field : Field Section => field.name == key :=
        rfl
      rw [takeMembers, takeMembers, List.find?_map, names]
      cases fields.find? fun field => field.name == key with
      | none => exact ih settings
      | some field =>
          simp only [Option.map_some, Field.within]
          cases field.take value (get settings) with
          | error place => rfl
          | ok part => simp [ih, isPart.get_put, isPart.put_put]

theorem takeItems_within (fields : List (Field Section)) (items : List Value)
    (settings : Settings) :
    takeItems settings (fields.map (Field.within get put)) items = do
      return put (← takeItems (get settings) fields items) settings := by
  induction fields generalizing items settings with
  | nil => simp [takeItems, isPart.put_get]
  | cons field fields ih =>
      cases items with
      | nil => simp [takeItems, isPart.put_get]
      | cons item items =>
          rw [List.map_cons, takeItems, takeItems]
          simp only [Field.within]
          cases field.take item (get settings) with
          | error place => rfl
          | ok part => simp [ih, isPart.get_put, isPart.put_put]

theorem readSection_within (fields : List (Field Section)) (value : Value) (settings : Settings) :
    readSection (fields.map (Field.within get put)) settings value = do
      return put (← readSection fields (get settings) value) settings := by
  cases value with
  | table place kind members => exact takeMembers_within isPart fields members settings
  | array place items => exact takeItems_within isPart fields items settings
  | tables place items => exact takeItems_within isPart fields items settings
  | time place => simp [readSection, isPart.put_get]
  | _ => rfl

end Within

/-- A field that takes over a text is one of the settings. -/
theorem within_text {Section : Type} {get : Settings → Section}
    {put : Section → Settings → Settings} {change : String → Section → Section}
    (setting : Setting) (kind : setting.kind = .text)
    (changes : ∀ text settings,
      put (change text (get settings)) settings = setting.put (.text text) settings) :
    Field.within get put ⟨setting.name, fun value part => do
      return change (← readText value) part⟩ = setting.field := by
  simp only [Field.within, Setting.field, kind, Kind.read]
  congr
  funext value settings
  cases readText value with
  | error place => rfl
  | ok text => exact congrArg Except.ok (changes text settings)

theorem within_number {Section Word : Type} {get : Settings → Section}
    {put : Section → Settings → Settings} {change : Word → Section → Section} {limit : Nat}
    {ofNat : Nat → Word} (setting : Setting) (kind : setting.kind = .number limit)
    (changes : ∀ number settings,
      put (change (ofNat number) (get settings)) settings =
        setting.put (.number number) settings) :
    Field.within get put ⟨setting.name, fun value part => do
      return change (← ofNat <$> readBounded limit value) part⟩ = setting.field := by
  simp only [Field.within, Setting.field, kind, Kind.read]
  congr
  funext value settings
  cases readBounded limit value with
  | error place => rfl
  | ok number => exact congrArg Except.ok (changes number settings)

/-- A section whose fields are settings is read setting by setting. -/
theorem field_of_within {Section : Type} {get : Settings → Section}
    {put : Section → Settings → Settings} {fields : List (Field Section)} {heading : Heading}
    (settings : fields.map (Field.within get put) = heading.settings.map Setting.field)
    (isPart : IsPart get put) :
    ⟨heading.name, fun value settings => do
      return put (← readSection fields (get settings) value) settings⟩ = heading.field := by
  simp only [Heading.field, ← settings, readSection_within isPart]

/-- The sections of a document are lists of settings. -/
theorem sections_eq : sections = Heading.all.map Heading.field := by
  have api : apiFields.map (Field.within Settings.api fun api settings => { settings with api }) =
      Heading.api.settings.map Setting.field := by
    simp only [apiFields, Heading.settings, List.map_cons, List.map_nil, List.cons.injEq, and_true]
    refine ⟨?_, ?_, ?_⟩
    · exact within_text .host rfl fun _ _ => rfl
    · exact within_number .port rfl fun _ _ => rfl
    · exact within_number .maxBodySize rfl fun _ _ => rfl
  have database : databaseFields.map
      (Field.within Settings.database fun database settings => { settings with database }) =
      Heading.database.settings.map Setting.field := by
    simp only [databaseFields, Heading.settings, List.map_cons, List.map_nil, List.cons.injEq,
      and_true]
    refine ⟨?_, ?_, ?_, ?_, ?_⟩
    · exact within_text .databasePath rfl fun _ _ => rfl
    · exact within_number .poolSize rfl fun _ _ => rfl
    · exact within_number .busyTimeout rfl fun _ _ => rfl
    · exact within_number .connectionTimeout rfl fun _ _ => rfl
    · exact within_number .idleTimeout rfl fun _ _ => rfl
  have startup : startupFields.map
      (Field.within Settings.startup fun startup settings => { settings with startup }) =
      Heading.startup.settings.map Setting.field := by
    simp only [startupFields, Heading.settings, List.map_cons, List.map_nil, List.cons.injEq,
      and_true]
    refine ⟨?_, ?_⟩
    · exact within_number .retryInterval rfl fun _ _ => rfl
    · exact within_number .maxAttempts rfl fun _ _ => rfl
  have logging : loggingFields.map
      (Field.within Settings.logging fun logging settings => { settings with logging }) =
      Heading.logging.settings.map Setting.field := by
    simp only [loggingFields, Heading.settings, List.map_cons, List.map_nil, List.cons.injEq,
      and_true]
    refine ⟨?_, ?_⟩
    · exact within_text .logLevel rfl fun _ _ => rfl
    · exact within_text .logFormat rfl fun _ _ => rfl
  simp only [sections, Heading.all, List.map_cons, List.map_nil, List.cons.injEq, and_true]
  refine ⟨?_, ?_, ?_, ?_⟩
  · exact field_of_within api ⟨fun _ => rfl, fun _ _ => rfl, fun _ _ _ => rfl⟩
  · exact field_of_within database ⟨fun _ => rfl, fun _ _ => rfl, fun _ _ _ => rfl⟩
  · exact field_of_within startup ⟨fun _ => rfl, fun _ _ => rfl, fun _ _ _ => rfl⟩
  · exact field_of_within logging ⟨fun _ => rfl, fun _ _ => rfl, fun _ _ _ => rfl⟩

end TransactionLedger.Config
