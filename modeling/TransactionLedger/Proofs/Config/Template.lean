import TransactionLedger.Config.Template
import TransactionLedger.Proofs.Config.Document
import TransactionLedger.Proofs.Toml.Sections

/-!
# The default settings as a document, read back

A document that writes every setting below the header of its section gives exactly these settings.
The document with the default settings is such a document, whatever the place of the database is.
-/

namespace TransactionLedger.Config

open Toml (Value)

/-! ## Settings as tables -/

/-- How a setting is written. -/
def Datum.written : Datum → List Char
  | text content => Toml.stringText content.toList
  | number value => Text.decimal value

/-- The value that is read for a setting. -/
def Datum.read : Datum → Nat → Value
  | text content => fun place => .string place content
  | number value => fun place => .integer place value

/-- Not every number of a setting can be written, as those of documents have a sign. -/
def Datum.IsWritable : Datum → Prop
  | text _ => True
  | number value => value < 2 ^ 63

instance (datum : Datum) : Decidable datum.IsWritable :=
  match datum with
  | .text _ => .isTrue trivial
  | .number value => inferInstanceAs (Decidable (value < 2 ^ 63))

theorem Datum.written_read {datum : Datum} (writable : datum.IsWritable) :
    Toml.Written datum.written datum.read := by
  cases datum with
  | text content =>
      have written := Toml.Written.string content.toList
      rwa [String.ofList_toList] at written
  | number value => exact .integer writable

namespace Heading

/-- The table of a section with all its settings. -/
def table (settings : Settings) (heading : Heading) : Toml.HeadedTable where
  name := heading.name
  assignments := heading.settings.map fun setting => (setting.name, (setting.value settings).read)

/-- The lines of a section. -/
def lines (settings : Settings) (heading : Heading) : List (List Char) :=
  ('[' :: heading.name.toList ++ [']']) :: heading.settings.map fun setting =>
    setting.name.toList ++ [' ', '=', ' '] ++ (setting.value settings).written

theorem isBareKey_name (heading : Heading) : Toml.IsBareKey heading.name.toList := by
  cases heading <;> decide

end Heading

namespace Setting

theorem isBareKey_name (setting : Setting) : Toml.IsBareKey setting.name.toList := by
  cases setting <;> decide

/-- What is read for a setting is of its kind. -/
theorem reads_read (setting : Setting) (settings : Settings) (place : Nat) :
    setting.kind.Reads ((setting.value settings).read place) (setting.value settings) := by
  cases setting <;> first
    | exact .text
    | exact .number (UInt16.toNat_lt _)
    | exact .number (UInt32.toNat_lt _)
    | exact .number (UInt64.toNat_lt _)

end Setting

/-- The lines of a document with all settings. -/
def settingLines (settings : Settings) : List (List Char) :=
  Heading.all.flatMap (Heading.lines settings)

section Lines

variable {settings : Settings} {lines : List (List Char)} {document : String}
  {members : Toml.Members}

theorem spelled_settingLines
    (writable : ∀ setting : Setting, (setting.value settings).IsWritable) :
    List.Forall₂ Toml.Spells (settingLines settings)
      ((Heading.all.map (Heading.table settings)).flatMap Toml.HeadedTable.sayings) := by
  have each (heading : Heading) :
      List.Forall₂ Toml.Spells (heading.lines settings) (heading.table settings).sayings := by
    have header := Toml.Spells.header heading.isBareKey_name
    rw [String.ofList_toList] at header
    refine .cons header ?_
    rw [Heading.table, List.map_map, List.forall₂_map_left_iff, List.forall₂_map_right_iff,
      List.forall₂_same]
    intro setting _
    have assigned := Toml.Spells.assign setting.isBareKey_name
      (Datum.written_read (writable setting))
    rwa [String.ofList_toList] at assigned
  rw [List.flatMap_map]
  refine List.rel_flatMap (List.forall₂_same.mpr fun _ _ => rfl) ?_
  rintro heading _ rfl
  exact each heading

/-- The tables of a document are those of the sections. -/
def HasTables (settings : Settings) (members : Toml.Members) : Prop :=
  List.Forall₂ (fun heading => Toml.Made (Heading.table settings heading)) Heading.all members

theorem exists_of_mem {α β : Type} {related : α → β → Prop} {values : List α} {others : List β}
    (each : List.Forall₂ related values others) {value : α} (inside : value ∈ values) :
    ∃ other ∈ others, related value other := by
  induction each with
  | nil => cases inside
  | cons here _ ih =>
      rcases List.mem_cons.mp inside with rfl | later
      · exact ⟨_, List.mem_cons_self, here⟩
      · rcases ih later with ⟨other, present, holds⟩
        exact ⟨other, List.mem_cons_of_mem _ present, holds⟩

/-- Under the name of a section stands its table. -/
theorem HasTables.exists_part (made : HasTables settings members) {heading : Heading}
    {part : Value} (inside : (heading.name, part) ∈ members) :
    ∃ place inner, part = .table place .headed inner ∧
      List.Forall₂ Toml.Assigned (heading.table settings).assignments inner := by
  rcases exists_of_mem made.flip inside with ⟨other, -, place, inner, same, assigned⟩
  rcases Prod.mk.inj same with ⟨name, rfl⟩
  rcases Heading.name_injective name with rfl
  exact ⟨place, inner, rfl, assigned⟩

theorem HasTables.exists_read (made : HasTables settings members) {setting : Setting}
    {value : Value} (stands : setting.StandsIn members value) :
    ∃ place, value = (setting.value settings).read place := by
  rcases stands with ⟨part, inside, holds⟩
  rcases made.exists_part inside with ⟨start, inner, rfl, assigned⟩
  rcases holds with ⟨present⟩
  rcases exists_of_mem assigned.flip present with ⟨assignment, known, place, same⟩
  rcases List.mem_map.mp known with ⟨other, -, rfl⟩
  rcases Prod.mk.inj same with ⟨name, rfl⟩
  rcases Setting.name_injective name with rfl
  exact ⟨place, rfl⟩

theorem HasTables.given (made : HasTables settings members) (setting : Setting) :
    setting.Given members (setting.value settings) := by
  rcases exists_of_mem made setting.heading.mem_all with
    ⟨_, inside, start, inner, rfl, assigned⟩
  have known := List.mem_map_of_mem
    (f := fun setting : Setting => (setting.name, (setting.value settings).read))
    setting.mem_settings_heading
  rcases exists_of_mem assigned known with ⟨_, present, place, rfl⟩
  exact ⟨_, ⟨_, inside, .table present⟩, setting.reads_read settings place⟩

/-- A document whose lines are those of settings gives these settings. -/
theorem parse_of_lines
    (writable : ∀ setting : Setting, (setting.value settings).IsWritable)
    (spoken : (lines.filter fun line => !Toml.isSilent line) = settingLines settings)
    (text : document.toList = lines.flatMap (· ++ ['\n']))
    (unmarked : Toml.withoutMark document.toList = document.toList) (databasePath : String) :
    Settings.parse databasePath document = .ok settings := by
  have names : ((Heading.all.map (Heading.table settings)).map Toml.HeadedTable.name).Nodup := by
    change (Heading.all.map Heading.name).Nodup
    decide
  have keys : ∀ headed ∈ Heading.all.map (Heading.table settings),
      (headed.assignments.map Prod.fst).Nodup := by
    intro _ inside
    rcases List.mem_map.mp inside with ⟨heading, -, rfl⟩
    have distinct := heading.nodup_names
    rw [List.map_map] at distinct
    rw [Heading.table, List.map_map]
    exact distinct
  rcases Toml.exists_parse_lines names keys (spoken ▸ spelled_settingLines writable) text unmarked
    with ⟨members, made, read⟩
  have tables : HasTables settings members := List.forall₂_map_left_iff.mp made
  have usable : Usable members := by
    constructor
    · intro heading part inside
      rcases tables.exists_part inside with ⟨place, inner, rfl, -⟩
      trivial
    · intro setting value stands
      rcases tables.exists_read stands with ⟨place, rfl⟩
      exact ⟨_, setting.reads_read settings place⟩
  rcases exists_parse_iff.mpr ⟨members, read, usable⟩ with ⟨found, parsed⟩
  rw [parsed]
  exact congrArg Except.ok (Setting.settings_ext fun setting =>
    (value_of_parse parsed read setting).1 _ (tables.given setting))

end Lines

/-! ## The template -/

/-- The lines of the document with the default settings. -/
def defaultLines (databasePath : String) : List (List Char) :=
  linesBefore.map String.toList ++
    ("path = ".toList ++ Toml.stringText databasePath.toList) :: linesAfter.map String.toList

theorem toList_defaultDocument (databasePath : String) :
    (defaultDocument databasePath).toList = (defaultLines databasePath).flatMap (· ++ ['\n']) := by
  have newline (line : String) : (line ++ "\n").toList = line.toList ++ ['\n'] :=
    String.toList_append
  simp only [defaultDocument, defaultLines, String.toList_join, List.map_append, List.map_cons,
    List.map_map, Function.comp_def, newline, String.toList_append, String.toList_ofList,
    List.flatten_append, List.flatten_cons, List.flatMap_def]

/-- Besides comments, the template has the default settings and nothing else. -/
theorem filter_defaultLines (databasePath : String) :
    ((defaultLines databasePath).filter fun line => !Toml.isSilent line) =
      settingLines (Settings.default databasePath) := by
  have before : (linesBefore.map String.toList).filter (fun line => !Toml.isSilent line) =
      (settingLines (Settings.default "")).take 5 := by
    decide +kernel
  have after : (linesAfter.map String.toList).filter (fun line => !Toml.isSilent line) =
      (settingLines (Settings.default "")).drop 6 := by
    decide +kernel
  have assigned : "path = ".toList = "path".toList ++ [' ', '=', ' '] := by decide
  have spoken : Toml.isSilent ("path = ".toList ++ Toml.stringText databasePath.toList) = false :=
    rfl
  rw [defaultLines, List.filter_append, List.filter_cons, before, after, spoken, assigned]
  rfl

theorem writable_default (databasePath : String) (setting : Setting) :
    (setting.value (Settings.default databasePath)).IsWritable := by
  by_cases place : setting = .databasePath
  · rcases place with rfl
    trivial
  · have same := Setting.value_put_of_ne place (.text databasePath) (Settings.default "")
    have replaced : Settings.default databasePath =
        Setting.databasePath.put (.text databasePath) (Settings.default "") :=
      rfl
    rw [replaced, same]
    cases setting <;> decide

/-- The document with the default settings gives the default settings, whatever the place of the
database is, and whatever holds where nothing is set. -/
theorem parse_defaultDocument (fallback databasePath : String) :
    Settings.parse fallback (defaultDocument databasePath) =
      .ok (Settings.default databasePath) := by
  refine parse_of_lines (writable_default databasePath) (filter_defaultLines databasePath)
    (toList_defaultDocument databasePath) ?_ fallback
  rw [toList_defaultDocument]
  rfl

end TransactionLedger.Config
