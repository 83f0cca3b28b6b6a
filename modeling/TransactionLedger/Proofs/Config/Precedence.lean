import TransactionLedger.Config.Search
import TransactionLedger.Proofs.Config.Document
import TransactionLedger.Proofs.Config.Environment

/-!
# Which value a setting has

A setting is what its variable says. If that cannot be used, it is what the first file on the search
path that can be loaded gives it, and if that file gives it nothing, what it is where nothing is
set.
-/

namespace TransactionLedger.Config

variable {environment other : Environment} {files otherFiles : Files} {paths rest : List String}
  {path : String} {setting : Setting} {datum : Datum} {document : Toml.Members}
  {settings : Settings}

/-! ## Specification -/

/-- There is a file, it can be read as a document, and the document can be used. -/
def Loads (files : Files) (path : String) (document : Toml.Members) : Prop :=
  ∃ text, files path = .ok text ∧ Toml.parse text = .ok document ∧ Usable document

/-- The document of the first file that can be loaded. -/
inductive FirstLoaded (files : Files) : List String → Toml.Members → Prop
  | here {path : String} {rest : List String} {document : Toml.Members}
    (loads : Loads files path document) : FirstLoaded files (path :: rest) document
  | later {path : String} {rest : List String} {document : Toml.Members}
    (fails : ∀ other, ¬ Loads files path other) (found : FirstLoaded files rest document) :
    FirstLoaded files (path :: rest) document

/-- The first loaded file gives the setting a value. -/
def Setting.Filed (setting : Setting) (environment : Environment) (files : Files)
    (datum : Datum) : Prop :=
  ∃ document, FirstLoaded files (searchPath environment) document ∧ setting.Given document datum

/-- What a setting has to be: the environment comes first, then the file, then the default. -/
inductive Setting.Decided (setting : Setting) (environment : Environment) (files : Files) :
    Datum → Prop
  | environment {datum : Datum} (replaced : setting.Replaced environment datum) :
    Decided setting environment files datum
  | file {datum : Datum} (kept : ∀ other, ¬ setting.Replaced environment other)
    (filed : setting.Filed environment files datum) : Decided setting environment files datum
  | builtIn (kept : ∀ other, ¬ setting.Replaced environment other)
    (unfiled : ∀ other, ¬ setting.Filed environment files other) :
    Decided setting environment files (setting.value environment.defaults)

/-! ## Loading -/

theorem loadWithEnvironment_eq_ok_iff :
    loadWithEnvironment environment files path = .ok settings ↔
      ∃ text base, files path = .ok text ∧
        Settings.parse (defaultDatabasePath environment) text = .ok base ∧
        base.override environment = settings := by
  rw [loadWithEnvironment, map_eq_ok_iff, load]
  cases files path with
  | error reason => simp
  | ok text =>
      simp only [Except.ok.injEq, exists_and_left, exists_eq_left']
      cases Settings.parse (defaultDatabasePath environment) text <;> simp

/-- A file can be loaded whatever the environment is. -/
theorem exists_loadWithEnvironment_iff :
    (∃ settings, loadWithEnvironment environment files path = .ok settings) ↔
      ∃ document, Loads files path document := by
  constructor
  · rintro ⟨settings, loaded⟩
    rcases loadWithEnvironment_eq_ok_iff.mp loaded with ⟨text, base, present, parsed, -⟩
    rcases exists_parse_iff.mp ⟨base, parsed⟩ with ⟨document, read, usable⟩
    exact ⟨document, text, present, read, usable⟩
  · rintro ⟨document, text, present, read, usable⟩
    rcases exists_parse_iff.mpr ⟨document, read, usable⟩ with ⟨base, parsed⟩
    exact ⟨_, loadWithEnvironment_eq_ok_iff.mpr ⟨text, base, present, parsed, rfl⟩⟩

theorem Loads.unique {otherDocument : Toml.Members} (loads : Loads files path document)
    (otherLoads : Loads files path otherDocument) : document = otherDocument := by
  rcases loads with ⟨text, present, read, -⟩
  rcases otherLoads with ⟨otherText, otherPresent, otherRead, -⟩
  rcases Except.ok.inj (present.symm.trans otherPresent) with rfl
  exact Except.ok.inj (read.symm.trans otherRead)

theorem FirstLoaded.unique {otherDocument : Toml.Members}
    (found : FirstLoaded files paths document)
    (otherFound : FirstLoaded files paths otherDocument) : document = otherDocument := by
  induction found with
  | here loads =>
      cases otherFound with
      | here otherLoads => exact loads.unique otherLoads
      | later fails => exact absurd loads (fails _)
  | later fails found ih =>
      cases otherFound with
      | here otherLoads => exact absurd otherLoads (fails _)
      | later _ otherFound => exact ih otherFound

/-- The settings are those of the first loaded file, or the default ones, with replacements. -/
theorem exists_base (environment : Environment) (files : Files) (paths : List String) :
    ∃ base, firstLoadable environment files paths = base.override environment ∧
      ((∃ text document, FirstLoaded files paths document ∧ Toml.parse text = .ok document ∧
          Settings.parse (defaultDatabasePath environment) text = .ok base) ∨
        (∀ document, ¬ FirstLoaded files paths document) ∧ base = environment.defaults) := by
  induction paths with
  | nil => exact ⟨_, rfl, .inr ⟨nofun, rfl⟩⟩
  | cons path rest ih =>
      rw [firstLoadable]
      cases outcome : loadWithEnvironment environment files path with
      | ok settings =>
          rcases loadWithEnvironment_eq_ok_iff.mp outcome with ⟨text, base, present, parsed, rfl⟩
          rcases exists_parse_iff.mp ⟨base, parsed⟩ with ⟨document, read, usable⟩
          exact ⟨base, rfl, .inl
            ⟨text, document, .here ⟨text, present, read, usable⟩, read, parsed⟩⟩
      | error problem =>
          have fails : ∀ document, ¬ Loads files path document := by
            intro document loads
            rcases exists_loadWithEnvironment_iff.mpr ⟨document, loads⟩ with ⟨settings, loaded⟩
            rw [outcome] at loaded
            cases loaded
          rcases ih with ⟨base, same, ⟨text, document, found, parsed⟩ | ⟨nothing, default⟩⟩
          · exact ⟨base, same, .inl ⟨text, document, .later fails found, parsed⟩⟩
          · refine ⟨base, same, .inr ⟨?_, default⟩⟩
            rintro document (loads | ⟨-, found⟩)
            · exact fails document loads
            · exact nothing document found

/-! ## Deciding -/

/-- What a setting is before the environment replaces it. -/
theorem exists_filed (setting : Setting) (environment : Environment) (files : Files) :
    ∃ base, setting.value (loadDefault environment files) =
        (setting.replacement? environment).getD base ∧
      (∀ datum, setting.Filed environment files datum → base = datum) ∧
      ((∀ datum, ¬ setting.Filed environment files datum) →
        base = setting.value environment.defaults) := by
  rcases exists_base environment files (searchPath environment) with
    ⟨base, loaded, ⟨text, document, found, read, parsed⟩ | ⟨nothing, rfl⟩⟩
  · rcases value_of_parse parsed read setting with ⟨given, default⟩
    refine ⟨setting.value base, ?_, ?_, ?_⟩
    · rw [loadDefault, loaded, setting.value_override]
    · rintro datum ⟨other, otherFound, otherGiven⟩
      rcases found.unique otherFound with rfl
      exact given datum otherGiven
    · intro unfiled
      exact default fun datum here => unfiled datum ⟨document, found, here⟩
  · refine ⟨setting.value environment.defaults, ?_, ?_, fun _ => rfl⟩
    · rw [loadDefault, loaded, setting.value_override]
    · rintro datum ⟨document, found, -⟩
      exact absurd found (nothing document)

theorem replacement?_eq_none (kept : ∀ datum, ¬ setting.Replaced environment datum) :
    setting.replacement? environment = none :=
  Option.eq_none_iff_forall_ne_some.mpr fun datum found =>
    kept datum (Setting.replacement?_eq_some_iff.mp found)

theorem value_loadDefault_iff :
    setting.value (loadDefault environment files) = datum ↔
      setting.Decided environment files datum := by
  rcases exists_filed setting environment files with ⟨base, same, filed, unfiled⟩
  rw [same]
  constructor
  · rintro rfl
    cases replaced : setting.replacement? environment with
    | some datum => exact .environment (Setting.replacement?_eq_some_iff.mp replaced)
    | none =>
        have kept (datum : Datum) : ¬ setting.Replaced environment datum := by
          rw [← Setting.replacement?_eq_some_iff, replaced]
          exact nofun
        by_cases given : ∃ datum, setting.Filed environment files datum
        · rcases given with ⟨datum, here⟩
          rw [filed datum here]
          exact .file kept here
        · have nothing := not_exists.mp given
          rw [unfiled nothing]
          exact .builtIn kept nothing
  · intro decided
    cases decided with
    | environment replaced => rw [Setting.replacement?_eq_some_iff.mpr replaced, Option.getD_some]
    | file kept here => rw [replacement?_eq_none kept, Option.getD_none, filed datum here]
    | builtIn kept nothing => rw [replacement?_eq_none kept, Option.getD_none, unfiled nothing]

theorem Setting.Replaced.congr
    (sameVariable : ∀ name ∈ setting.environmentName?, environment name = other name)
    (replaced : setting.Replaced environment datum) : setting.Replaced other datum := by
  rcases replaced with ⟨name, text, named, present, denotes⟩
  exact ⟨name, text, named, sameVariable name named ▸ present, denotes⟩

/-- Only its own variable, the first loaded document and the default matter for a setting. -/
theorem value_loadDefault_congr
    (sameVariable : ∀ name ∈ setting.environmentName?, environment name = other name)
    (sameDocument : ∀ document, FirstLoaded files (searchPath environment) document ↔
      FirstLoaded otherFiles (searchPath other) document)
    (sameDefault : setting.value environment.defaults = setting.value other.defaults) :
    setting.value (loadDefault environment files) =
      setting.value (loadDefault other otherFiles) := by
  have replaced (datum : Datum) :
      setting.Replaced other datum ↔ setting.Replaced environment datum :=
    ⟨.congr fun name named => (sameVariable name named).symm, .congr sameVariable⟩
  have filed (datum : Datum) :
      setting.Filed other otherFiles datum ↔ setting.Filed environment files datum :=
    exists_congr fun document => and_congr_left fun _ => (sameDocument document).symm
  rw [value_loadDefault_iff]
  generalize same : setting.value (loadDefault other otherFiles) = datum
  cases value_loadDefault_iff.mp same with
  | environment here => exact .environment ((replaced _).mp here)
  | file kept here =>
      exact .file (fun datum => mt (replaced datum).mpr (kept datum)) ((filed _).mp here)
  | builtIn kept nothing =>
      rw [← sameDefault]
      exact .builtIn (fun datum => mt (replaced datum).mpr (kept datum))
        fun datum => mt (filed datum).mpr (nothing datum)

/-- The settings on the search path, setting by setting: what each of them is, which files can be
loaded, and that nothing but its own variable, the first loaded document and the default matters. -/
theorem loadDefault_precedence (environment : Environment) (files : Files) :
    (∀ (setting : Setting) (datum : Datum),
        setting.value (loadDefault environment files) = datum ↔
          setting.Decided environment files datum) ∧
      (∀ path, (∃ settings, loadWithEnvironment environment files path = .ok settings) ↔
        ∃ document, Loads files path document) ∧
      ∀ (setting : Setting) (other : Environment) (otherFiles : Files),
        (∀ name ∈ setting.environmentName?, environment name = other name) →
        (∀ document, FirstLoaded files (searchPath environment) document ↔
          FirstLoaded otherFiles (searchPath other) document) →
        setting.value environment.defaults = setting.value other.defaults →
        setting.value (loadDefault environment files) =
          setting.value (loadDefault other otherFiles) := by
  refine ⟨fun _ _ => value_loadDefault_iff, fun _ => exists_loadWithEnvironment_iff, ?_⟩
  intro setting other otherFiles sameVariable sameDocument sameDefault
  exact value_loadDefault_congr sameVariable sameDocument sameDefault

/-- An environment with a port that can be used and a number of attempts that cannot. -/
def sampleEnvironment : Environment
  | "HOME" => some "/home/ledger"
  | "LISTEN_PORT" => some " +8443 "
  | "DB_CONNECT_MAX_ATTEMPTS" => some "many"
  | _ => none

/-- A faulty file of the user, and one in the working directory that can be loaded. -/
def sampleFiles : Files
  | "/home/ledger/.config/payments-sor/config.toml" => .ok "[api]\nhost = 127"
  | "./config.toml" => .ok "[api]\nport = 80\n[bootstrap]\nmax_attempts = 7\n"
  | _ => .error noSuchFile

/-- The port comes from the environment, the number of attempts from the second file, and the host
from nowhere. Another log level changes none of them. -/
theorem loadDefault_precedence_sample :
    Setting.port.Decided sampleEnvironment sampleFiles (.number 8443) ∧
      Setting.maxAttempts.Decided sampleEnvironment sampleFiles (.number 7) ∧
      Setting.host.Decided sampleEnvironment sampleFiles (.text "0.0.0.0") ∧
      Setting.port.value (loadDefault sampleEnvironment sampleFiles) =
        Setting.port.value (loadDefault
          (fun name => if name = "SOR_LOG_LEVEL" then some "debug" else sampleEnvironment name)
          sampleFiles) := by
  rcases loadDefault_precedence sampleEnvironment sampleFiles with ⟨decided, -, congr⟩
  refine ⟨?_, ?_, ?_, ?_⟩
  · exact (decided .port _).mp (by decide +kernel)
  · exact (decided .maxAttempts _).mp (by decide +kernel)
  · exact (decided .host _).mp (by decide +kernel)
  · refine congr .port _ _ (fun name named => ?_) (fun document => ?_) ?_
    · rcases Option.some.inj named with rfl
      rfl
    · rfl
    · rfl

end TransactionLedger.Config
