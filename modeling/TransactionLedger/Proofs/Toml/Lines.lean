import Mathlib.Data.List.Forall2
import TransactionLedger.Proofs.Text.Digits
import TransactionLedger.Proofs.Toml.Quoted
import TransactionLedger.Toml.Parser

/-!
# Documents line by line

On a line stands a comment or nothing, the header of a table, or the assignment of a written string
or a natural number to a key without quotes. The statements of a document of such lines are what the
lines say, and nothing is left over.
-/

namespace TransactionLedger.Toml

variable {rest : List Char}

/-! ## Numbers -/

theorem moreDigits_append {done digits : List Char}
    (allDigits : ∀ c ∈ digits, Text.isDigit c = true) :
    moreDigits Text.isDigit done (digits ++ '\n' :: rest) =
      .ok (done.reverse ++ digits, '\n' :: rest) := by
  induction digits generalizing done with
  | nil =>
      rw [List.nil_append, List.append_nil]
      rfl
  | cons c digits ih =>
      rcases List.forall_mem_cons.mp allDigits with ⟨here, later⟩
      have noUnderscore : c ≠ '_' := by
        rintro rfl
        cases here
      rw [List.cons_append, moreDigits, if_pos here, ih later, List.reverse_cons,
        List.append_assoc, List.singleton_append]
      exact noUnderscore

theorem dropWhile_decimal (n : Nat) (rest : List Char) :
    (Text.decimal n ++ '\n' :: rest).dropWhile Text.isDigit = '\n' :: rest := by
  rw [List.dropWhile_append_of_pos fun c => Text.isDigit_of_mem_decimal]
  rfl

theorem startsDate_decimal (n : Nat) : startsDate (Text.decimal n ++ '\n' :: rest) = false := by
  have behind := dropWhile_decimal n rest
  unfold startsDate
  split
  · rename_i a b c d more shape
    rw [Bool.eq_false_iff]
    intro digits
    simp only [List.all_cons, List.all_nil, Bool.and_true, Bool.and_eq_true] at digits
    rcases digits with ⟨a, b, c, d⟩
    rw [shape, List.dropWhile_cons_of_pos a, List.dropWhile_cons_of_pos b,
      List.dropWhile_cons_of_pos c, List.dropWhile_cons_of_pos d,
      List.dropWhile_cons_of_neg (by decide)] at behind
    exact absurd (List.cons.inj behind).1 (by decide)
  · rfl

theorem startsTime_decimal (n : Nat) : startsTime (Text.decimal n ++ '\n' :: rest) = false := by
  have behind := dropWhile_decimal n rest
  unfold startsTime
  split
  · rename_i a b more shape
    rw [Bool.eq_false_iff]
    intro digits
    rcases Bool.and_eq_true_iff.mp digits with ⟨a, b⟩
    rw [shape, List.dropWhile_cons_of_pos a, List.dropWhile_cons_of_pos b,
      List.dropWhile_cons_of_neg (by decide)] at behind
    exact absurd (List.cons.inj behind).1 (by decide)
  · rfl

theorem scanWhole_decimal (n : Nat) :
    scanWhole (Text.decimal n ++ '\n' :: rest) = .ok (Text.decimal n, '\n' :: rest) := by
  rcases Text.decimal_head n with zero | ⟨c, digits, shape, digit, nonzero⟩
  · rw [zero]
    rfl
  · have later : ∀ c ∈ digits, Text.isDigit c = true := fun c inside =>
      Text.isDigit_of_mem_decimal (shape ▸ List.mem_cons_of_mem _ inside)
    rw [shape, List.cons_append, scanWhole, digitRun, if_pos digit, moreDigits_append later]
    · rfl
    · exact fun _ same => nonzero (List.cons.inj same).1

theorem isDigit_of_decimal_eq {n : Nat} {c : Char} {more : List Char}
    (shape : Text.decimal n ++ rest = c :: more) : Text.isDigit c = true := by
  rcases List.exists_cons_of_ne_nil (Text.decimal_ne_nil n) with ⟨first, digits, starts⟩
  rw [starts] at shape
  rcases List.cons.inj shape with ⟨rfl, -⟩
  exact Text.isDigit_of_mem_decimal (starts ▸ List.mem_cons_self)

theorem eq_of_decimal_eq_zero {n : Nat} {c : Char} {more : List Char}
    (shape : Text.decimal n ++ '\n' :: rest = '0' :: c :: more) : c = '\n' := by
  rcases Text.decimal_head n with zero | ⟨first, digits, starts, -, nonzero⟩
  · rw [zero] at shape
    exact (List.cons.inj (List.cons.inj shape).2).1.symm
  · rw [starts] at shape
    exact absurd (List.cons.inj shape).1 nonzero

theorem scanFraction_newline : scanFraction ('\n' :: rest) = .ok (none, '\n' :: rest) :=
  rfl

theorem scanExponent_newline : scanExponent ('\n' :: rest) = .ok (none, '\n' :: rest) :=
  rfl

theorem checkedInteger_of_lt {n : Nat} (small : n < 2 ^ 63) (start : List Char) (place : Nat) :
    checkedInteger start place n rest = .ok (.integer place n, rest) := by
  rw [checkedInteger, if_pos]
  omega

theorem decimalNumber_decimal {n : Nat} (small : n < 2 ^ 63) (start : List Char) (place : Nat) :
    decimalNumber start place false (Text.decimal n ++ '\n' :: rest) =
      .ok (.integer place n, '\n' :: rest) := by
  refine bind_eq_ok_iff.mpr ⟨_, scanWhole_decimal n, ?_⟩
  refine bind_eq_ok_iff.mpr ⟨_, scanFraction_newline, ?_⟩
  refine bind_eq_ok_iff.mpr ⟨_, scanExponent_newline, ?_⟩
  simp only [Bool.false_eq_true, if_false, Text.naturalOf_decimal]
  exact checkedInteger_of_lt small start place

theorem specialFloat?_decimal (n : Nat) : specialFloat? (Text.decimal n ++ '\n' :: rest) = none := by
  unfold specialFloat?
  split
  · rename_i shape
    exact absurd (isDigit_of_decimal_eq shape) (by decide)
  · rename_i shape
    exact absurd (isDigit_of_decimal_eq shape) (by decide)
  · rfl

theorem scanNumber_decimal {n : Nat} (small : n < 2 ^ 63) (place : Nat) (rest : List Char) :
    scanNumber place (Text.decimal n ++ '\n' :: rest) =
      .ok (.integer place n, '\n' :: rest) := by
  unfold scanNumber
  rw [startsDate_decimal, startsTime_decimal]
  simp only [Bool.false_eq_true, if_false]
  split
  · rename_i shape
    exact absurd (isDigit_of_decimal_eq shape) (by decide)
  · rename_i shape
    exact absurd (isDigit_of_decimal_eq shape) (by decide)
  · rename_i shape
    exact absurd (eq_of_decimal_eq_zero shape) (by decide)
  · rename_i shape
    exact absurd (eq_of_decimal_eq_zero shape) (by decide)
  · rename_i shape
    exact absurd (eq_of_decimal_eq_zero shape) (by decide)
  · rw [signedNumber, specialFloat?_decimal]
    exact decimalNumber_decimal small _ place

/-! ## Values -/

/-- How a value is written, wherever it starts. -/
inductive Written : List Char → (Nat → Value) → Prop
  | string (text : List Char) :
    Written (stringText text) fun place => .string place (String.ofList text)
  | integer {value : Nat} (small : value < 2 ^ 63) :
    Written (Text.decimal value) fun place => .integer place value

variable {text name : List Char} {value : Nat → Value}

theorem scanValue_of_isDigit {c : Char} (digit : Text.isDigit c = true) (total room : Nat)
    (text : List Char) :
    scanValue total room (c :: text) = scanNumber (total - (c :: text).length) (c :: text) := by
  rw [scanValue, digit, Bool.true_or, Bool.true_or, if_pos rfl] <;> rintro rfl <;> cases digit

theorem skipBlanks_of_isDigit {c : Char} (digit : Text.isDigit c = true) (text : List Char) :
    skipBlanks (c :: text) = c :: text := by
  refine List.dropWhile_cons_of_neg fun blank => ?_
  simp only [isBlank, Bool.or_eq_true, beq_iff_eq] at blank
  rcases blank with rfl | rfl <;> cases digit

/-- A written value starts with a visible character. -/
theorem Written.skipBlanks_append (written : Written text value) :
    skipBlanks (text ++ rest) = text ++ rest := by
  cases written with
  | string text =>
      have nothing : ∀ c ∈ ([] : List Char).head?, c ≠ '"' ∧ c ≠ '\'' := nofun
      rcases quotedString_stringText text nothing with ⟨quote, body, shape, style, -⟩
      rw [shape]
      rcases style with rfl | rfl <;> rfl
  | @integer n small =>
      rcases List.exists_cons_of_ne_nil (Text.decimal_ne_nil n) with ⟨c, digits, shape⟩
      rw [shape]
      exact skipBlanks_of_isDigit (Text.isDigit_of_mem_decimal (shape ▸ List.mem_cons_self)) _

theorem Written.exists_scanValue (written : Written text value) (total room : Nat)
    (rest : List Char) :
    ∃ place, scanValue total room (text ++ '\n' :: rest) = .ok (value place, '\n' :: rest) := by
  refine ⟨total - (text ++ '\n' :: rest).length, ?_⟩
  cases written with
  | string text =>
      have newline : ∀ c ∈ ('\n' :: rest).head?, c ≠ '"' ∧ c ≠ '\'' := by
        rintro c ⟨⟩
        decide
      rcases quotedString_stringText text newline with ⟨quote, body, shape, style, read⟩
      rw [shape, List.cons_append] at read ⊢
      rcases style with rfl | rfl
      · rw [scanValue, read]
        rfl
      · rw [scanValue, read]
        rfl
  | @integer n small =>
      have read := fun place => scanNumber_decimal small place rest
      rcases List.exists_cons_of_ne_nil (Text.decimal_ne_nil n) with ⟨c, digits, shape⟩
      rw [shape, List.cons_append] at read ⊢
      rw [scanValue_of_isDigit (Text.isDigit_of_mem_decimal (shape ▸ List.mem_cons_self)), read]

/-! ## Keys -/

/-- A key without quotes. -/
def IsBareKey (name : List Char) : Prop :=
  name ≠ [] ∧ ∀ c ∈ name, isKeyChar c = true

instance (name : List Char) : Decidable (IsBareKey name) :=
  decidable_of_iff (name ≠ [] ∧ name.all isKeyChar = true) (by simp [IsBareKey])

/-- A key starts with none of the characters that mean something else there. -/
theorem IsBareKey.exists_cons (key : IsBareKey name) :
    ∃ c more, name = c :: more ∧ c ∉ ['"', '\'', '[', '#', '\n', '\r', ' ', '\t'] := by
  rcases List.exists_cons_of_ne_nil key.1 with ⟨c, more, rfl⟩
  refine ⟨c, more, rfl, fun inside => ?_⟩
  have refused : ∀ c ∈ ['"', '\'', '[', '#', '\n', '\r', ' ', '\t'], isKeyChar c = false := by
    simp [isKeyChar]
  have allowed := key.2 c List.mem_cons_self
  rw [refused c inside] at allowed
  cases allowed

theorem scanKeyPart_append (key : IsBareKey name) (behind : ∀ c ∈ rest.head?, isKeyChar c = false) :
    scanKeyPart (name ++ rest) = .ok (String.ofList name, rest) := by
  have taken : (name ++ rest).takeWhile isKeyChar = name := by
    rw [List.takeWhile_append_of_pos key.2]
    cases rest with
    | nil => simp
    | cons c rest => rw [List.takeWhile_cons_of_neg (by simp [behind c rfl]), List.append_nil]
  rcases key.exists_cons with ⟨c, more, rfl, other⟩
  simp only [List.mem_cons, not_or] at other
  unfold scanKeyPart
  split
  · rename_i same
    exact absurd (List.cons.inj same).1 other.1
  · rename_i same
    exact absurd (List.cons.inj same).1 other.2.1
  · simp only [taken, List.isEmpty_cons, Bool.false_eq_true, if_false, List.drop_left]

theorem skipBlanks_key (key : IsBareKey name) : skipBlanks (name ++ rest) = name ++ rest := by
  rcases key.exists_cons with ⟨c, more, rfl, other⟩
  refine List.dropWhile_cons_of_neg fun blank => other ?_
  simp only [isBlank, Bool.or_eq_true, beq_iff_eq] at blank
  rcases blank with rfl | rfl <;> decide

theorem scanKey_append (key : IsBareKey name) (behind : ∀ c ∈ rest.head?, isKeyChar c = false)
    (last : ∀ c ∈ (skipBlanks rest).head?, c ≠ '.') :
    scanKey (name ++ rest) = .ok (([], String.ofList name), skipBlanks rest) := by
  have parts : scanKeyParts (name ++ rest).length (name ++ rest) =
      .ok ([String.ofList name], skipBlanks rest) := by
    cases fuel : (name ++ rest).length with
    | zero => exact absurd (List.append_eq_nil_iff.mp (List.length_eq_zero_iff.mp fuel)).1 key.1
    | succ fuel =>
        rw [scanKeyParts, skipBlanks_key key, scanKeyPart_append key behind, ok_bind]
        simp only
        split
        · rename_i shape
          rw [shape] at last
          exact absurd rfl (last '.' rfl)
        · rfl
  rw [scanKey, parts]
  rfl

/-! ## Lines -/

/-- A line on which nothing or a comment stands. -/
def isSilent : List Char → Bool
  | [] => true
  | '#' :: comment => comment.all isCommentChar
  | _ => false

/-- What a line says: the header of a table, or an assignment. -/
inductive Saying
  | header (name : String)
  | assign (name : String) (value : Nat → Value)

/-- How something is said. -/
inductive Spells : List Char → Saying → Prop
  | header {name : List Char} (key : IsBareKey name) :
    Spells ('[' :: name ++ [']']) (.header (String.ofList name))
  | assign {name text : List Char} {value : Nat → Value} (key : IsBareKey name)
    (written : Written text value) :
    Spells (name ++ [' ', '=', ' '] ++ text) (.assign (String.ofList name) value)

/-- The statement is what has been said, at some place. -/
inductive Saying.States : Saying → Statement → Prop
  | header {name : String} {place : Nat} : States (.header name) (.header place [] name)
  | assign {name : String} {value : Nat → Value} {place start : Nat} :
    States (.assign name value) (.assign place [] name (value start))

variable {line : List Char} {saying : Saying}

theorem scanHeader_append (key : IsBareKey name) :
    scanHeader [']'] (name ++ ']' :: '\n' :: rest) = .ok (([], String.ofList name), rest) := by
  have read : scanKey (name ++ ']' :: '\n' :: rest) =
      .ok (([], String.ofList name), ']' :: '\n' :: rest) := by
    refine scanKey_append key ?_ ?_
    · rintro c ⟨⟩
      decide
    · rintro c ⟨⟩
      decide
  rw [scanHeader, read]
  rfl

theorem exists_scanAssignment (key : IsBareKey name) (written : Written text value)
    (total room : Nat) (rest : List Char) :
    ∃ place, scanAssignment (scanValue total room)
        (name ++ ' ' :: '=' :: ' ' :: (text ++ '\n' :: rest)) =
      .ok ((([], String.ofList name), value place), '\n' :: rest) := by
  have read : scanKey (name ++ ' ' :: '=' :: ' ' :: (text ++ '\n' :: rest)) =
      .ok (([], String.ofList name), '=' :: ' ' :: (text ++ '\n' :: rest)) := by
    refine scanKey_append key ?_ ?_
    · rintro c ⟨⟩
      decide
    · rintro c ⟨⟩
      decide
  rcases written.exists_scanValue total room rest with ⟨place, scanned⟩
  have blank : skipBlanks (' ' :: (text ++ '\n' :: rest)) = text ++ '\n' :: rest :=
    written.skipBlanks_append
  refine ⟨place, ?_⟩
  rw [scanAssignment, read, ok_bind]
  simp only [expect_cons, ok_bind, blank, scanned]
  rfl

theorem scanStatement_header (key : IsBareKey name) (total : Nat) (rest : List Char) :
    ∃ place, scanStatement total ('[' :: (name ++ ']' :: '\n' :: rest)) =
      .ok (.header place [] (String.ofList name), rest) := by
  refine ⟨total - ('[' :: (name ++ ']' :: '\n' :: rest)).length, ?_⟩
  rw [scanStatement, scanHeader_append key]
  · rfl
  · rcases key.exists_cons with ⟨c, more, rfl, other⟩
    intro _ same
    rcases List.cons.inj same with ⟨rfl, -⟩
    exact other (by decide)

theorem scanStatement_assign (key : IsBareKey name) (written : Written text value) (total : Nat)
    (rest : List Char) :
    ∃ place start,
      scanStatement total (name ++ ' ' :: '=' :: ' ' :: (text ++ '\n' :: rest)) =
        .ok (.assign place [] (String.ofList name) (value start), rest) := by
  rcases exists_scanAssignment key written total nestingLimit rest with ⟨start, read⟩
  refine ⟨total - (name ++ ' ' :: '=' :: ' ' :: (text ++ '\n' :: rest)).length, start, ?_⟩
  rw [scanStatement, read]
  · rfl
  all_goals
    rcases key.exists_cons with ⟨c, more, rfl, other⟩
    intro _ same
    rcases List.cons.inj same with ⟨rfl, -⟩
    exact other (by decide)

/-- A line that says something is a statement. -/
theorem Spells.exists_scanStatement (spelled : Spells line saying) (total : Nat)
    (rest : List Char) :
    ∃ statement, saying.States statement ∧
      scanStatement total (line ++ '\n' :: rest) = .ok (statement, rest) := by
  cases spelled with
  | @header name key =>
      rcases scanStatement_header key total rest with ⟨place, read⟩
      refine ⟨.header place [] (String.ofList name), .header, ?_⟩
      rw [← read, List.append_assoc]
      rfl
  | @assign name text value key written =>
      rcases scanStatement_assign key written total rest with ⟨place, start, read⟩
      refine ⟨.assign place [] (String.ofList name) (value start), .assign, ?_⟩
      rw [← read, List.append_assoc, List.append_assoc]
      rfl

/-- A line that says something starts with none of the characters that do not. -/
theorem Spells.exists_cons (spelled : Spells line saying) :
    ∃ c more, line = c :: more ∧ c ∉ ['#', '\n', '\r', ' ', '\t'] := by
  cases spelled with
  | header key => exact ⟨'[', _, rfl, by decide⟩
  | assign key written =>
      rcases key.exists_cons with ⟨c, more, rfl, other⟩
      refine ⟨c, _, rfl, fun inside => other ?_⟩
      exact List.mem_of_mem_drop (i := 3) inside

theorem scanStatements_spelled (spelled : Spells line saying) (total fuel : Nat)
    (rest : List Char) :
    ∃ statement, saying.States statement ∧
      scanStatements total (fuel + 1) (line ++ '\n' :: rest) =
        (statement :: (scanStatements total fuel rest).1, (scanStatements total fuel rest).2) := by
  rcases spelled.exists_scanStatement total rest with ⟨statement, states, scanned⟩
  rcases spelled.exists_cons with ⟨c, more, rfl, other⟩
  refine ⟨statement, states, ?_⟩
  have visible : skipBlanks (c :: more ++ '\n' :: rest) = c :: more ++ '\n' :: rest := by
    refine List.dropWhile_cons_of_neg fun blank => other ?_
    simp only [isBlank, Bool.or_eq_true, beq_iff_eq] at blank
    rcases blank with rfl | rfl <;> decide
  rw [scanStatements, visible]
  have differs {d : Char} {first rest : List Char} (shape : c :: first = d :: rest)
      (excluded : d ∈ ['#', '\n', '\r', ' ', '\t']) : False :=
    other ((List.cons.inj shape).1 ▸ excluded)
  split
  · rename_i shape
    cases shape
  · rename_i shape
    exact (differs shape (by decide)).elim
  · rename_i shape
    exact (differs shape (by decide)).elim
  · rename_i shape
    exact (differs shape (by decide)).elim
  · rw [scanned]

theorem scanStatements_silent (silent : isSilent line = true) (total fuel : Nat)
    (rest : List Char) :
    scanStatements total (fuel + 1) (line ++ '\n' :: rest) = scanStatements total fuel rest := by
  unfold isSilent at silent
  split at silent
  · rfl
  · rename_i comment
    have ended : endLine (skipComment ('#' :: (comment ++ '\n' :: rest))) = .ok rest := by
      rw [skipComment, List.dropWhile_append_of_pos (List.all_eq_true.mp silent)]
      rfl
    have starts : skipBlanks ('#' :: (comment ++ '\n' :: rest)) = '#' :: (comment ++ '\n' :: rest) :=
      rfl
    rw [List.cons_append, scanStatements]
    simp only [starts, ended]
  · cases silent

/-- The statements of a document are what its lines say. -/
theorem exists_scanStatements {lines : List (List Char)} {sayings : List Saying}
    (spelled : List.Forall₂ Spells (lines.filter fun line => !isSilent line) sayings)
    (total : Nat) {fuel : Nat} (enough : lines.length ≤ fuel) :
    ∃ statements, List.Forall₂ Saying.States sayings statements ∧
      scanStatements total fuel (lines.flatMap (· ++ ['\n'])) = (statements, none) := by
  induction lines generalizing sayings fuel with
  | nil =>
      rcases List.forall₂_nil_left_iff.mp spelled with rfl
      refine ⟨[], .nil, ?_⟩
      cases fuel <;> rfl
  | cons line lines ih =>
      rw [List.flatMap_cons, List.append_assoc, List.singleton_append]
      cases fuel with
      | zero => cases enough
      | succ fuel =>
          have enoughLater := Nat.le_of_succ_le_succ enough
          cases silent : isSilent line with
          | true =>
              rw [List.filter_cons_of_neg (by simp [silent])] at spelled
              rw [scanStatements_silent silent]
              exact ih spelled enoughLater
          | false =>
              rw [List.filter_cons_of_pos (by simp [silent])] at spelled
              rcases List.forall₂_cons_left_iff.mp spelled with ⟨saying, more, here, later, rfl⟩
              rcases ih later enoughLater with ⟨statements, states, scanned⟩
              rcases scanStatements_spelled here total fuel _ with ⟨statement, stated, step⟩
              rw [scanned] at step
              exact ⟨statement :: statements, .cons stated states, step⟩

end TransactionLedger.Toml
