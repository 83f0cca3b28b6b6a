import TransactionLedger.Config.Environment
import TransactionLedger.Proofs.Config.Setting
import TransactionLedger.Proofs.Text.Blank

/-!
# What the environment replaces

Most settings have a variable of their own. A variable that can be used replaces its setting, and
nothing else does.
-/

namespace TransactionLedger.Config

/-! ## Numbers in variables -/

/-- The text is a natural number in ASCII digits, with a plus sign in front and blanks around it at
most. -/
def Writes (text : List Char) (value : Nat) : Prop :=
  ∃ before sign digits after, text = before ++ (sign ++ digits) ++ after ∧
    (∀ c ∈ before, Text.isBlank c = true) ∧ (sign = [] ∨ sign = ['+']) ∧ digits ≠ [] ∧
    (∀ c ∈ digits, Text.isDigit c = true) ∧ (∀ c ∈ after, Text.isBlank c = true) ∧
    Text.naturalOf digits = value

/-- The digits of a number without its sign. -/
def unsigned : List Char → List Char
  | '+' :: rest => rest
  | text => text

theorem numberOf?_eq (limit : Nat) (text : String) :
    numberOf? limit text =
      let digits := unsigned (Text.trim text.toList)
      if !digits.isEmpty && digits.all Text.isDigit && Text.naturalOf digits < limit then
        some (Text.naturalOf digits) else none :=
  rfl

theorem unsigned_append {sign digits : List Char} (signed : sign = [] ∨ sign = ['+'])
    (allDigits : ∀ c ∈ digits, Text.isDigit c = true) : unsigned (sign ++ digits) = digits := by
  rcases signed with rfl | rfl
  · cases digits with
    | nil => rfl
    | cons c rest =>
        have digit := allDigits c List.mem_cons_self
        rw [List.nil_append]
        unfold unsigned
        split
        · rename_i same
          rcases List.cons.inj same with ⟨rfl, -⟩
          cases digit
        · rfl
  · rfl

theorem exists_sign (text : List Char) :
    ∃ sign, text = sign ++ unsigned text ∧ (sign = [] ∨ sign = ['+']) := by
  unfold unsigned
  split
  · exact ⟨['+'], rfl, .inr rfl⟩
  · exact ⟨[], rfl, .inl rfl⟩

/-- Blanks do not belong to a number. -/
theorem trim_number {before sign digits after : List Char}
    (blankBefore : ∀ c ∈ before, Text.isBlank c = true) (signed : sign = [] ∨ sign = ['+'])
    (nonempty : digits ≠ []) (allDigits : ∀ c ∈ digits, Text.isDigit c = true)
    (blankAfter : ∀ c ∈ after, Text.isBlank c = true) :
    Text.trim (before ++ (sign ++ digits) ++ after) = sign ++ digits := by
  have visible (c : Char) (inside : c ∈ digits) : Text.isBlank c = false :=
    Text.isBlank_of_isDigit (allDigits c inside)
  have starts (rest : List Char) :
      Text.trimLeft (sign ++ digits ++ rest) = sign ++ digits ++ rest := by
    rcases signed with rfl | rfl
    · rcases List.exists_cons_of_ne_nil nonempty with ⟨first, others, rfl⟩
      exact Text.trimLeft_cons_of_visible (visible first List.mem_cons_self)
    · exact Text.trimLeft_cons_of_visible (by decide)
  have ends : Text.trimRight (sign ++ digits) = sign ++ digits := by
    rcases (List.eq_nil_or_concat digits).resolve_left nonempty with ⟨front, last, rfl⟩
    rw [List.concat_eq_append, ← List.append_assoc]
    exact Text.trimRight_append_of_visible (visible last (by simp))
  rw [Text.trim, List.append_assoc, Text.trimLeft_append blankBefore (starts after),
    Text.trimRight_append blankAfter ends]

/-- A variable is used for a number exactly if it writes one that is small enough. -/
theorem numberOf?_eq_some_iff {limit value : Nat} {text : String} :
    numberOf? limit text = some value ↔ value < limit ∧ Writes text.toList value := by
  rw [numberOf?_eq]
  simp only [Option.ite_none_right_eq_some, Bool.and_eq_true, Bool.not_eq_true', Option.some.injEq,
    List.isEmpty_eq_false_iff, List.all_eq_true, decide_eq_true_eq]
  constructor
  · rintro ⟨⟨⟨nonempty, allDigits⟩, small⟩, rfl⟩
    rcases Text.exists_trim text.toList with ⟨before, after, shape, blankBefore, blankAfter⟩
    rcases exists_sign (Text.trim text.toList) with ⟨sign, trimmed, signed⟩
    rw [trimmed] at shape
    exact ⟨small, before, sign, _, after, shape, blankBefore, signed, nonempty, allDigits,
      blankAfter, rfl⟩
  · rintro ⟨small, before, sign, digits, after, shape, blankBefore, signed, nonempty, allDigits,
      blankAfter, rfl⟩
    rw [shape, trim_number blankBefore signed nonempty allDigits blankAfter,
      unsigned_append signed allDigits]
    exact ⟨⟨⟨nonempty, allDigits⟩, small⟩, rfl⟩

/-! ## Variables of settings -/

/-- The value of a variable says something that is of the kind. -/
inductive Kind.Denotes : Kind → String → Datum → Prop
  | text {text : String} : Denotes .text text (.text text)
  | number {limit value : Nat} {text : String} (small : value < limit)
      (written : Writes text.toList value) : Denotes (.number limit) text (.number value)

/-- What the value of a variable says to a setting of a kind. -/
def Kind.ofText? : Kind → String → Option Datum
  | .text, given => some (.text given)
  | .number limit, given => (numberOf? limit given).map .number

theorem Kind.ofText?_eq_some_iff {kind : Kind} {text : String} {datum : Datum} :
    kind.ofText? text = some datum ↔ kind.Denotes text datum := by
  constructor
  · intro found
    cases kind with
    | text =>
        rcases Option.some.inj found with rfl
        exact .text
    | number limit =>
        rcases Option.map_eq_some_iff.mp found with ⟨value, written, rfl⟩
        rcases numberOf?_eq_some_iff.mp written with ⟨small, writes⟩
        exact .number small writes
  · rintro (_ | ⟨small, writes⟩)
    · rfl
    · exact Option.map_eq_some_iff.mpr ⟨_, numberOf?_eq_some_iff.mpr ⟨small, writes⟩, rfl⟩

namespace Setting

/-- The variable of a setting. -/
def environmentName? : Setting → Option String
  | host => some "LISTEN_HOST"
  | port => some "LISTEN_PORT"
  | maxBodySize => none
  | databasePath => some "DB_PATH"
  | poolSize => some "DB_CONNECTION_LIMIT"
  | busyTimeout => none
  | connectionTimeout => some "DB_POOL_QUEUE_TIMEOUT"
  | idleTimeout => some "DB_POOL_IDLE_TIME"
  | retryInterval => some "DB_CONNECT_RETRY_INTERVAL_MS"
  | maxAttempts => some "DB_CONNECT_MAX_ATTEMPTS"
  | logLevel => some "SOR_LOG_LEVEL"
  | logFormat => some "SOR_LOG_FORMAT"

/-- The variable of a setting is set to something that can be used for it. -/
def Replaced (setting : Setting) (environment : Environment) (datum : Datum) : Prop :=
  ∃ name text, setting.environmentName? = some name ∧ environment name = some text ∧
    setting.kind.Denotes text datum

/-- What the environment replaces a setting by. -/
def replacement? (setting : Setting) (environment : Environment) : Option Datum :=
  (setting.environmentName?.bind environment).bind setting.kind.ofText?

theorem replacement?_eq_some_iff {setting : Setting} {environment : Environment} {datum : Datum} :
    setting.replacement? environment = some datum ↔ setting.Replaced environment datum := by
  simp only [replacement?, Option.bind_eq_some_iff, Kind.ofText?_eq_some_iff, Replaced]
  constructor
  · rintro ⟨text, ⟨name, named, present⟩, denotes⟩
    exact ⟨name, text, named, present, denotes⟩
  · rintro ⟨name, text, named, present, denotes⟩
    exact ⟨text, ⟨name, named, present⟩, denotes⟩

/-- A word that a variable gives, as what it says. -/
theorem number_getD {Word : Type} (ofNat : Nat → Word) (toNat : Word → Nat) {limit : Nat}
    (back : ∀ value < limit, toNat (ofNat value) = value) (given : Option String)
    (otherwise : Word) :
    Datum.number (toNat (((given.bind (numberOf? limit)).map ofNat).getD otherwise)) =
      (given.bind (Kind.number limit).ofText?).getD (.number (toNat otherwise)) := by
  cases given with
  | none => rfl
  | some text =>
      simp only [Option.bind_some, Kind.ofText?]
      cases found : numberOf? limit text with
      | none => rfl
      | some value =>
          exact congrArg Datum.number (back value (numberOf?_eq_some_iff.mp found).1)

theorem text_getD (given : Option String) (otherwise : String) :
    Datum.text (given.getD otherwise) = (given.bind Kind.text.ofText?).getD (.text otherwise) := by
  cases given <;> rfl

/-- The environment decides a setting by its own variable or not at all. -/
theorem value_override (setting : Setting) (settings : Settings) (environment : Environment) :
    setting.value (settings.override environment) =
      (setting.replacement? environment).getD (setting.value settings) := by
  have word16 := number_getD UInt16.ofNat UInt16.toNat fun _ => UInt16.toNat_ofNat_of_lt
  have word32 := number_getD UInt32.ofNat UInt32.toNat fun _ => UInt32.toNat_ofNat_of_lt
  have word64 := number_getD UInt64.ofNat UInt64.toNat fun _ => UInt64.toNat_ofNat_of_lt
  cases setting with
  | host => exact text_getD _ _
  | port => exact word16 _ _
  | maxBodySize => rfl
  | databasePath => exact text_getD _ _
  | poolSize => exact word32 _ _
  | busyTimeout => rfl
  | connectionTimeout => exact word64 _ _
  | idleTimeout => exact word64 _ _
  | retryInterval => exact word64 _ _
  | maxAttempts => exact word64 _ _
  | logLevel => exact text_getD _ _
  | logFormat => exact text_getD _ _

end Setting

end TransactionLedger.Config
