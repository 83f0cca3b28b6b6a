import TransactionLedger.Proofs.Config.Setting
import TransactionLedger.Proofs.Toml.Distinct

/-!
# What a document gives

A document that can be used gives values to some settings, and the other ones keep the values that
they have without it. It can be used if its sections have fields and every value in them is of the
kind of its setting.
-/

namespace TransactionLedger.Config

open Toml (Value)

/-! ## Where values stand -/

/-- A part of a document has a value for a field: a table under its name, an array at its place. -/
inductive Holds (name : String) (position : Nat) (value : Value) : Value → Prop
  | table {place : Nat} {kind : Toml.TableKind} {members : Toml.Members}
    (inside : (name, value) ∈ members) : Holds name position value (.table place kind members)
  | array {place : Nat} {items : List Value} (there : items[position]? = some value) :
    Holds name position value (.array place items)
  | tables {place : Nat} {items : List Value} (there : items[position]? = some value) :
    Holds name position value (.tables place items)

/-- A value that can be a section. -/
def HasFields : Value → Prop
  | .table _ _ _ | .array _ _ | .tables _ _ | .time _ => True
  | _ => False

namespace Setting

/-- The place of a setting in an array of the values of its section. -/
def position (setting : Setting) : Nat :=
  setting.heading.settings.idxOf setting

/-- The value stands for the setting in a document. -/
def StandsIn (setting : Setting) (document : Toml.Members) (value : Value) : Prop :=
  ∃ part, (setting.heading.name, part) ∈ document ∧
    Holds setting.name setting.position value part

/-- A document gives a setting what its value says. -/
def Given (setting : Setting) (document : Toml.Members) (datum : Datum) : Prop :=
  ∃ value, setting.StandsIn document value ∧ setting.kind.Reads value datum

end Setting

/-- The sections of a document have fields, and its values are of the kinds of their settings. -/
structure Usable (document : Toml.Members) : Prop where
  parts : ∀ (heading : Heading) (part : Value), (heading.name, part) ∈ document → HasFields part
  values : ∀ (setting : Setting) (value : Value), setting.StandsIn document value →
    ∃ datum, setting.kind.Reads value datum

/-! ## What becomes of a setting -/

section Governs

variable {fields : List (Field Settings)} {name : String} {setting : Setting}
  {Becomes : Value → Datum → Datum → Prop} {before after : Settings}

/-- The field never changes the setting. -/
def Field.Keeps (field : Field Settings) (setting : Setting) : Prop :=
  ∀ value before after, field.take value before = .ok after →
    setting.value after = setting.value before

/-- Only the field of this name changes the setting. -/
structure Governs (fields : List (Field Settings)) (name : String) (setting : Setting)
    (Becomes : Value → Datum → Datum → Prop) : Prop where
  own : ∀ field ∈ fields, field.name = name → ∀ value before after,
    field.take value before = .ok after →
      Becomes value (setting.value before) (setting.value after)
  others : ∀ field ∈ fields, field.name ≠ name → field.Keeps setting

theorem find?_name_eq_some {key : String} {field : Field Settings}
    (found : (fields.find? fun field => field.name == key) = some field) :
    field ∈ fields ∧ field.name = key := by
  have named := List.find?_some found
  rw [beq_iff_eq] at named
  exact ⟨List.mem_of_find?_eq_some found, named⟩

/-- A table without the fields that change a setting leaves it as it is. -/
theorem takeMembers_keeps {members : Toml.Members}
    (keeps : ∀ field ∈ fields, ∀ value, (field.name, value) ∈ members → field.Keeps setting)
    (taken : takeMembers fields before members = .ok after) :
    setting.value after = setting.value before := by
  induction members generalizing before with
  | nil =>
      rcases Except.ok.inj taken with rfl
      rfl
  | cons member rest ih =>
      rcases member with ⟨key, value⟩
      have restKeeps : ∀ field ∈ fields, ∀ value, (field.name, value) ∈ rest →
          field.Keeps setting := fun field known value inside =>
        keeps field known value (List.mem_cons_of_mem _ inside)
      rw [takeMembers] at taken
      split at taken
      · rename_i field found
        rcases find?_name_eq_some found with ⟨known, rfl⟩
        rcases bind_eq_ok_iff.mp taken with ⟨next, first, walked⟩
        rw [ih restKeeps walked]
        exact keeps field known value List.mem_cons_self value before next first
      · exact ih restKeeps taken

theorem takeItems_keeps (keeps : ∀ field ∈ fields, field.Keeps setting) {items : List Value}
    (taken : takeItems before fields items = .ok after) :
    setting.value after = setting.value before := by
  induction fields generalizing items before with
  | nil =>
      rcases Except.ok.inj taken with rfl
      rfl
  | cons field fields ih =>
      cases items with
      | nil =>
          rcases Except.ok.inj taken with rfl
          rfl
      | cons item items =>
          rcases bind_eq_ok_iff.mp taken with ⟨next, first, walked⟩
          rcases List.forall_mem_cons.mp keeps with ⟨here, later⟩
          rw [ih later walked]
          exact here item before next first

/-- A section none of whose fields changes a setting leaves it as it is. -/
theorem readSection_keeps (keeps : ∀ field ∈ fields, field.Keeps setting) {part : Value}
    (taken : readSection fields before part = .ok after) :
    setting.value after = setting.value before := by
  cases part with
  | table place kind members =>
      exact takeMembers_keeps (fun field known _ _ => keeps field known) taken
  | array place items => exact takeItems_keeps keeps taken
  | tables place items => exact takeItems_keeps keeps taken
  | time place =>
      rcases Except.ok.inj taken with rfl
      rfl
  | _ => cases taken

/-- A table without the name leaves the setting as it is. -/
theorem Governs.takeMembers_of_ne (governs : Governs fields name setting Becomes)
    {members : Toml.Members} (missing : ∀ value, (name, value) ∉ members)
    (taken : takeMembers fields before members = .ok after) :
    setting.value after = setting.value before := by
  refine takeMembers_keeps (fun field known value inside => governs.others field known ?_) taken
  rintro rfl
  exact missing value inside

/-- The one value under the name decides what becomes of the setting. -/
theorem Governs.takeMembers (governs : Governs fields name setting Becomes)
    (present : ∃ field ∈ fields, field.name = name) {members : Toml.Members}
    (distinct : (members.map Prod.fst).Nodup) {value : Value} (inside : (name, value) ∈ members)
    (taken : takeMembers fields before members = .ok after) :
    Becomes value (setting.value before) (setting.value after) := by
  induction members generalizing before with
  | nil => cases inside
  | cons member rest ih =>
      rcases member with ⟨key, first⟩
      rcases List.nodup_cons.mp distinct with ⟨fresh, restDistinct⟩
      rw [Config.takeMembers] at taken
      split at taken
      · rename_i field found
        rcases find?_name_eq_some found with ⟨known, rfl⟩
        rcases bind_eq_ok_iff.mp taken with ⟨next, step, walked⟩
        rcases List.mem_cons.mp inside with here | later
        · rcases Prod.mk.inj here with ⟨rfl, rfl⟩
          have missing (other : Value) : (field.name, other) ∉ rest := fun inside =>
            fresh (List.mem_map.mpr ⟨_, inside, rfl⟩)
          rw [governs.takeMembers_of_ne missing walked]
          exact governs.own field known rfl value before next step
        · have different : field.name ≠ name := by
            rintro rfl
            exact fresh (List.mem_map.mpr ⟨_, later, rfl⟩)
          rw [← governs.others field known different first before next step]
          exact ih restDistinct later walked
      · rename_i unknown
        rcases List.mem_cons.mp inside with here | later
        · rcases present with ⟨field, known, named⟩
          have ignored := List.find?_eq_none.mp unknown field known
          simp [named, (Prod.mk.inj here).1] at ignored
        · exact ih restDistinct later taken

theorem Governs.tail {field : Field Settings}
    (governs : Governs (field :: fields) name setting Becomes) :
    Governs fields name setting Becomes where
  own := fun other inside => governs.own other (List.mem_cons_of_mem _ inside)
  others := fun other inside => governs.others other (List.mem_cons_of_mem _ inside)

/-- The value at the place of the field decides what becomes of the setting. -/
theorem Governs.takeItems (governs : Governs fields name setting Becomes)
    (distinct : (fields.map Field.name).Nodup) {position : Nat}
    (there : (fields.map Field.name)[position]? = some name) {items : List Value}
    (taken : takeItems before fields items = .ok after) :
    (∀ value, items[position]? = some value →
        Becomes value (setting.value before) (setting.value after)) ∧
      (items[position]? = none → setting.value after = setting.value before) := by
  induction fields generalizing items before position with
  | nil => simp at there
  | cons field fields ih =>
      cases items with
      | nil =>
          rcases Except.ok.inj taken with rfl
          exact ⟨nofun, fun _ => rfl⟩
      | cons item items =>
          rcases bind_eq_ok_iff.mp taken with ⟨next, first, walked⟩
          rcases List.nodup_cons.mp distinct with ⟨fresh, restDistinct⟩
          have step := governs.own field List.mem_cons_self
          have ignored := governs.others field List.mem_cons_self
          cases position with
          | zero =>
              rcases Option.some.inj there with rfl
              have keeps : ∀ other ∈ fields, other.Keeps setting := fun other inside =>
                governs.tail.others other inside fun same =>
                  fresh (List.mem_map.mpr ⟨other, inside, same⟩)
              rw [takeItems_keeps keeps walked]
              refine ⟨fun value here => ?_, nofun⟩
              rcases Option.some.inj here with rfl
              exact step rfl item before next first
          | succ position =>
              have different : field.name ≠ name := by
                rintro rfl
                exact fresh (List.mem_of_getElem? there)
              rw [← ignored different item before next first]
              exact ih governs.tail restDistinct there walked

/-- A section changes the setting by the value that it has for it. -/
theorem Governs.readSection (governs : Governs fields name setting Becomes)
    (distinct : (fields.map Field.name).Nodup) {position : Nat}
    (there : (fields.map Field.name)[position]? = some name) {part : Value}
    (partDistinct : part.Distinct) (taken : readSection fields before part = .ok after) :
    (∀ value, Holds name position value part →
        Becomes value (setting.value before) (setting.value after)) ∧
      ((∀ value, ¬ Holds name position value part) →
        setting.value after = setting.value before) := by
  have present : ∃ field ∈ fields, field.name = name :=
    List.mem_map.mp (List.mem_of_getElem? there)
  cases part with
  | table place kind members =>
      have keys := (Toml.distinct_table_iff.mp partDistinct).1
      refine ⟨fun value holds => ?_, fun missing => ?_⟩
      · rcases holds with ⟨inside⟩
        exact governs.takeMembers present keys inside taken
      · exact governs.takeMembers_of_ne (fun value inside => missing value (.table inside)) taken
  | array place items =>
      rcases governs.takeItems distinct there taken with ⟨changed, kept⟩
      refine ⟨fun value holds => ?_, fun missing => ?_⟩
      · rcases holds with _ | ⟨found⟩
        exact changed value found
      · exact kept (Option.eq_none_iff_forall_ne_some.mpr fun value found =>
          missing value (.array found))
  | tables place items =>
      rcases governs.takeItems distinct there taken with ⟨changed, kept⟩
      refine ⟨fun value holds => ?_, fun missing => ?_⟩
      · rcases holds with _ | _ | ⟨found⟩
        exact changed value found
      · exact kept (Option.eq_none_iff_forall_ne_some.mpr fun value found =>
          missing value (.tables found))
  | time place =>
      rcases Except.ok.inj taken with rfl
      exact ⟨nofun, fun _ => rfl⟩
  | _ => cases taken

end Governs

/-! ## What can be taken over -/

section Takes

/-- The field takes a value over, whatever the settings are. -/
def Field.Takes (field : Field Settings) (value : Value) : Prop :=
  ∀ before, ∃ after, field.take value before = .ok after

/-- Whether a value is taken over does not depend on the settings. -/
def Field.IsSteady (field : Field Settings) : Prop :=
  ∀ value before after, field.take value before = .ok after → field.Takes value

variable {fields : List (Field Settings)} (steady : ∀ field ∈ fields, field.IsSteady)

include steady

theorem exists_takeMembers_iff (distinct : (fields.map Field.name).Nodup)
    (members : Toml.Members) (before : Settings) :
    (∃ after, takeMembers fields before members = .ok after) ↔
      ∀ field ∈ fields, ∀ value, (field.name, value) ∈ members → field.Takes value := by
  induction members generalizing before with
  | nil => exact ⟨fun _ _ _ _ => nofun, fun _ => ⟨before, rfl⟩⟩
  | cons member rest ih =>
      rcases member with ⟨key, first⟩
      rw [takeMembers]
      split
      · rename_i field found
        rcases find?_name_eq_some found with ⟨known, rfl⟩
        constructor
        · rintro ⟨after, taken⟩ other inside value present
          rcases bind_eq_ok_iff.mp taken with ⟨next, step, walked⟩
          rcases List.mem_cons.mp present with here | later
          · rcases Prod.mk.inj here with ⟨same, rfl⟩
            rcases List.inj_on_of_nodup_map distinct inside known same with rfl
            exact steady other known value before next step
          · exact (ih next).mp ⟨after, walked⟩ other inside value later
        · intro takes
          rcases takes field known first List.mem_cons_self before with ⟨next, step⟩
          rcases (ih next).mpr fun other inside value later =>
            takes other inside value (List.mem_cons_of_mem _ later) with ⟨after, walked⟩
          exact ⟨after, bind_eq_ok_iff.mpr ⟨next, step, walked⟩⟩
      · rename_i unknown
        rw [ih before]
        refine forall₂_congr fun field inside => forall_congr' fun value => ?_
        have different : field.name ≠ key := by
          simpa using List.find?_eq_none.mp unknown field inside
        simp [different]

theorem exists_takeItems_iff (items : List Value) (before : Settings) :
    (∃ after, takeItems before fields items = .ok after) ↔
      ∀ (position : Nat) field value, fields[position]? = some field →
        items[position]? = some value → field.Takes value := by
  induction fields generalizing items before with
  | nil => exact ⟨fun _ _ _ _ => nofun, fun _ => ⟨before, rfl⟩⟩
  | cons field fields ih =>
      rcases List.forall_mem_cons.mp steady with ⟨here, later⟩
      cases items with
      | nil => exact ⟨fun _ _ _ _ _ => nofun, fun _ => ⟨before, rfl⟩⟩
      | cons item items =>
          rw [takeItems]
          constructor
          · rintro ⟨after, taken⟩ position other value known present
            rcases bind_eq_ok_iff.mp taken with ⟨next, step, walked⟩
            cases position with
            | zero =>
                rcases Option.some.inj known with rfl
                rcases Option.some.inj present with rfl
                exact here item before next step
            | succ position =>
                exact (ih later items next).mp ⟨after, walked⟩ position other value known present
          · intro takes
            rcases takes 0 field item rfl rfl before with ⟨next, step⟩
            rcases (ih later items next).mpr fun position other value known present =>
              takes (position + 1) other value known present with ⟨after, walked⟩
            exact ⟨after, bind_eq_ok_iff.mpr ⟨next, step, walked⟩⟩

theorem exists_readSection_iff (distinct : (fields.map Field.name).Nodup) (part : Value)
    (before : Settings) :
    (∃ after, readSection fields before part = .ok after) ↔
      HasFields part ∧ ∀ (position : Nat) field value, fields[position]? = some field →
        Holds field.name position value part → field.Takes value := by
  cases part with
  | table place kind members =>
      refine (exists_takeMembers_iff steady distinct members before).trans ?_
      constructor
      · intro takes
        refine ⟨trivial, fun position field value known holds => ?_⟩
        rcases holds with ⟨inside⟩
        exact takes field (List.mem_of_getElem? known) value inside
      · rintro ⟨-, takes⟩ field known value inside
        rcases List.mem_iff_getElem?.mp known with ⟨position, there⟩
        exact takes position field value there (.table inside)
  | array place items =>
      refine (exists_takeItems_iff steady items before).trans ?_
      constructor
      · intro takes
        refine ⟨trivial, fun position field value known holds => ?_⟩
        rcases holds with _ | ⟨there⟩
        exact takes position field value known there
      · rintro ⟨-, takes⟩ position field value known there
        exact takes position field value known (.array there)
  | tables place items =>
      refine (exists_takeItems_iff steady items before).trans ?_
      constructor
      · intro takes
        refine ⟨trivial, fun position field value known holds => ?_⟩
        rcases holds with _ | _ | ⟨there⟩
        exact takes position field value known there
      · rintro ⟨-, takes⟩ position field value known there
        exact takes position field value known (.tables there)
  | time place => exact ⟨fun _ => ⟨trivial, fun _ _ _ _ => nofun⟩, fun _ => ⟨before, rfl⟩⟩
  | _ => exact ⟨nofun, nofun⟩

end Takes

/-! ## Settings as fields of their section -/

namespace Setting

variable {setting : Setting} {value : Value} {before after : Settings}

theorem getElem?_position (setting : Setting) :
    setting.heading.settings[setting.position]? = some setting := by
  cases setting <;> rfl

theorem position_of_getElem? {heading : Heading} {position : Nat}
    (there : heading.settings[position]? = some setting) : setting.position = position := by
  rcases heading_of_mem (List.mem_of_getElem? there) with rfl
  have inside := (List.getElem?_eq_some_iff.mp setting.getElem?_position).choose
  exact (List.getElem?_inj inside (nodup_settings setting.heading)).mp
    (setting.getElem?_position.trans there.symm)

theorem field_take_eq_ok_iff : setting.field.take value before = .ok after ↔
    ∃ datum, setting.kind.Reads value datum ∧ setting.put datum before = after := by
  simp only [field, bind_eq_ok_iff, Kind.read_eq_ok_iff, pure_eq_ok, Except.ok.injEq]

theorem takes_field_iff : setting.field.Takes value ↔ ∃ datum, setting.kind.Reads value datum := by
  constructor
  · intro takes
    rcases takes (Settings.default "") with ⟨after, taken⟩
    rcases field_take_eq_ok_iff.mp taken with ⟨datum, reads, -⟩
    exact ⟨datum, reads⟩
  · rintro ⟨datum, reads⟩ before
    exact ⟨_, field_take_eq_ok_iff.mpr ⟨datum, reads, rfl⟩⟩

theorem isSteady_field (setting : Setting) : setting.field.IsSteady := by
  intro value before after taken
  rcases field_take_eq_ok_iff.mp taken with ⟨datum, reads, -⟩
  exact takes_field_iff.mpr ⟨datum, reads⟩

/-- A value that is taken over for the setting is what the setting is. -/
theorem governs_settings (setting : Setting) :
    Governs (setting.heading.settings.map field) setting.name setting
      fun value _ after => setting.kind.Reads value after where
  own := by
    intro _ inside named value before after taken
    rcases List.mem_map.mp inside with ⟨other, -, rfl⟩
    rcases name_injective named with rfl
    rcases field_take_eq_ok_iff.mp taken with ⟨datum, reads, rfl⟩
    rwa [value_put reads]
  others := by
    intro _ inside different value before after taken
    rcases List.mem_map.mp inside with ⟨other, -, rfl⟩
    rcases field_take_eq_ok_iff.mp taken with ⟨datum, -, rfl⟩
    refine value_put_of_ne ?_ datum before
    rintro rfl
    exact different rfl

end Setting

/-! ## Sections as fields of the document -/

namespace Heading

variable {heading : Heading} {part : Value} {before after : Settings}

theorem nodup_names (heading : Heading) :
    ((heading.settings.map Setting.field).map Field.name).Nodup := by
  cases heading <;> decide

theorem steady_settings (heading : Heading) :
    ∀ field ∈ heading.settings.map Setting.field, field.IsSteady := by
  intro _ inside
  rcases List.mem_map.mp inside with ⟨setting, -, rfl⟩
  exact setting.isSteady_field

/-- A section can be taken over if it has fields and each of them can. -/
theorem exists_take_field_iff (before : Settings) :
    (∃ after, heading.field.take part before = .ok after) ↔
      HasFields part ∧ ∀ setting ∈ heading.settings, ∀ value,
        Holds setting.name setting.position value part →
          ∃ datum, setting.kind.Reads value datum := by
  refine (exists_readSection_iff heading.steady_settings heading.nodup_names part before).trans
    (and_congr_right fun _ => ?_)
  constructor
  · intro takes setting inside value holds
    rcases Setting.heading_of_mem inside with rfl
    have known : (setting.heading.settings.map Setting.field)[setting.position]? =
        some setting.field := by
      rw [List.getElem?_map, setting.getElem?_position, Option.map_some]
    exact Setting.takes_field_iff.mp (takes setting.position setting.field value known holds)
  · intro readable position field value known holds
    rw [List.getElem?_map] at known
    rcases Option.map_eq_some_iff.mp known with ⟨setting, there, rfl⟩
    rcases Setting.position_of_getElem? there with rfl
    exact Setting.takes_field_iff.mpr
      (readable setting (List.mem_of_getElem? there) value holds)

theorem isSteady_field (heading : Heading) : heading.field.IsSteady := by
  intro part before after taken other
  exact (exists_take_field_iff other).mpr ((exists_take_field_iff before).mp ⟨after, taken⟩)

/-- A section without duplicates gives a setting the value that it has for it. -/
theorem governs_all (setting : Setting) :
    Governs (all.map field) setting.heading.name setting fun part before after =>
      part.Distinct →
        (∀ value, Holds setting.name setting.position value part →
            setting.kind.Reads value after) ∧
          ((∀ value, ¬ Holds setting.name setting.position value part) → after = before) where
  own := by
    intro _ inside named part before after taken distinct
    rcases List.mem_map.mp inside with ⟨heading, -, rfl⟩
    rcases name_injective named with rfl
    refine setting.governs_settings.readSection (nodup_names _) ?_ distinct taken
    rw [List.map_map, List.getElem?_map, setting.getElem?_position]
    rfl
  others := by
    intro _ inside different part before after taken
    rcases List.mem_map.mp inside with ⟨heading, -, rfl⟩
    refine readSection_keeps (fun field known => ?_) taken
    rcases List.mem_map.mp known with ⟨other, here, rfl⟩
    intro value before after changed
    rcases Setting.field_take_eq_ok_iff.mp changed with ⟨datum, -, rfl⟩
    refine Setting.value_put_of_ne ?_ datum before
    rintro rfl
    exact different (congrArg name (Setting.heading_of_mem here).symm)

end Heading

/-! ## Documents -/

/-- A document gives settings exactly if it can be read and is usable. -/
theorem exists_parse_iff {databasePath text : String} :
    (∃ settings, Settings.parse databasePath text = .ok settings) ↔
      ∃ document, Toml.parse text = .ok document ∧ Usable document := by
  have names : ((Heading.all.map Heading.field).map Field.name).Nodup := by decide
  have steady : ∀ field ∈ Heading.all.map Heading.field, field.IsSteady := by
    intro _ inside
    rcases List.mem_map.mp inside with ⟨heading, -, rfl⟩
    exact heading.isSteady_field
  have usable (document : Toml.Members) :
      (∃ settings, takeMembers sections (Settings.default databasePath) document = .ok settings) ↔
        Usable document := by
    rw [sections_eq, exists_takeMembers_iff steady names]
    constructor
    · intro takes
      have each (heading : Heading) (part : Value) (inside : (heading.name, part) ∈ document) :=
        (Heading.exists_take_field_iff (Settings.default databasePath)).mp
          (takes heading.field (List.mem_map_of_mem heading.mem_all) part inside _)
      constructor
      · intro heading part inside
        exact (each heading part inside).1
      · rintro setting value ⟨part, inside, holds⟩
        exact (each setting.heading part inside).2 setting setting.mem_settings_heading value holds
    · rintro ⟨parts, values⟩ _ known part inside before
      rcases List.mem_map.mp known with ⟨heading, -, rfl⟩
      refine (Heading.exists_take_field_iff before).mpr ⟨parts heading part inside, ?_⟩
      intro setting here value holds
      rcases Setting.heading_of_mem here with rfl
      exact values setting value ⟨part, inside, holds⟩
  constructor
  · rintro ⟨settings, parsed⟩
    rcases bind_eq_ok_iff.mp parsed with ⟨document, read, taken⟩
    exact ⟨document, read, (usable document).mp ⟨settings, taken⟩⟩
  · rintro ⟨document, read, readable⟩
    rcases (usable document).mpr readable with ⟨settings, taken⟩
    exact ⟨settings, bind_eq_ok_iff.mpr ⟨document, read, taken⟩⟩

/-- A setting is what the document gives it, and without that what it is where nothing is set. -/
theorem value_of_parse {databasePath text : String} {settings : Settings}
    (parsed : Settings.parse databasePath text = .ok settings) {document : Toml.Members}
    (read : Toml.parse text = .ok document) (setting : Setting) :
    (∀ datum, setting.Given document datum → setting.value settings = datum) ∧
      ((∀ datum, ¬ setting.Given document datum) →
        setting.value settings = setting.value (Settings.default databasePath)) := by
  rcases bind_eq_ok_iff.mp parsed with ⟨_, sameRead, taken⟩
  rcases Except.ok.inj (read.symm.trans sameRead) with rfl
  rw [sections_eq] at taken
  have distinct := Toml.distinct_of_parse read
  have governs := Heading.governs_all setting
  have present : ∃ field ∈ Heading.all.map Heading.field, field.name = setting.heading.name :=
    ⟨setting.heading.field, List.mem_map_of_mem setting.heading.mem_all, rfl⟩
  have changes (part : Value) (inside : (setting.heading.name, part) ∈ document) :=
    governs.takeMembers present distinct.1 inside taken (distinct.2 _ inside)
  constructor
  · rintro datum ⟨value, ⟨part, inside, holds⟩, reads⟩
    exact ((changes part inside).1 value holds).unique reads
  · intro nothing
    by_cases headed : ∃ part, (setting.heading.name, part) ∈ document
    · rcases headed with ⟨part, inside⟩
      rcases changes part inside with ⟨changed, kept⟩
      exact kept fun value holds =>
        nothing _ ⟨value, ⟨part, inside, holds⟩, changed value holds⟩
    · exact governs.takeMembers_of_ne (fun part inside => headed ⟨part, inside⟩) taken

end TransactionLedger.Config
