import Mathlib.Computability.Language
import Mathlib.Data.Char
import Mathlib.Data.Set.List
import TransactionLedger.Proofs.Query.FieldPath

/-!
# The language of field paths

The texts of field paths are a regular language over classes of ASCII characters. A name is read as
a path just when it is a word of this language, with one `$.` in front of it or without. A word
falls into an identifier and steps in one way only, and into these the reading takes it apart.
-/

namespace TransactionLedger.Query

open Computability

namespace PathLanguage

/-- The texts of one character of a class. -/
def oneOf (characters : Set Char) : Language Char :=
  {text | ∃ c ∈ characters, text = [c]}

/-- ASCII letters and the underscore. -/
def letters : Set Char :=
  Set.Icc 'A' 'Z' ∪ Set.Icc 'a' 'z' ∪ {'_'}

/-- ASCII digits. -/
def digits : Set Char :=
  Set.Icc '0' '9'

/-- A letter, then letters and digits. -/
def identifiers : Language Char :=
  oneOf letters * (oneOf (letters ∪ digits))∗

/-- One or more digits. -/
def numerals : Language Char :=
  oneOf digits * (oneOf digits)∗

/-- A dot with an identifier, or a numeral in brackets. -/
def steps : Language Char :=
  {['.']} * identifiers + {['[']} * numerals * {[']']}

/-- An identifier, then any number of steps. -/
def paths : Language Char :=
  identifiers * steps∗

/-- The text falls into the identifier and the steps behind it. -/
structure Splits (text : List Char) (parts : List Char × List (List Char)) : Prop where
  named : parts.1 ∈ identifiers
  stepwise : ∀ part ∈ parts.2, part ∈ steps
  joined : parts.1 ++ parts.2.flatten = text

/-! ## Words of the language -/

variable {text : List Char}

theorem mem_oneOf_mul_iff {characters : Set Char} {language : Language Char} :
    text ∈ oneOf characters * language ↔
      ∃ c rest, text = c :: rest ∧ c ∈ characters ∧ rest ∈ language := by
  rw [Language.mem_mul]
  constructor
  · rintro ⟨_, ⟨c, allowed, rfl⟩, rest, inside, rfl⟩
    exact ⟨c, rest, rfl, allowed, inside⟩
  · rintro ⟨c, rest, rfl, allowed, inside⟩
    exact ⟨[c], ⟨c, allowed, rfl⟩, rest, inside, rfl⟩

theorem mem_kstar_oneOf_iff {characters : Set Char} :
    text ∈ (oneOf characters)∗ ↔ ∀ c ∈ text, c ∈ characters := by
  rw [Language.mem_kstar]
  constructor
  · rintro ⟨pieces, rfl, single⟩ c inside
    rcases List.mem_flatten.mp inside with ⟨piece, chosen, inside⟩
    rcases single piece chosen with ⟨d, allowed, rfl⟩
    rwa [List.mem_singleton.mp inside]
  · intro allowed
    refine ⟨text.map fun c => [c], by simp [← List.flatMap_def], ?_⟩
    intro piece chosen
    rcases List.mem_map.mp chosen with ⟨c, inside, rfl⟩
    exact ⟨c, allowed c inside, rfl⟩

theorem mem_letters_iff {c : Char} : c ∈ letters ↔ isIdentifierStart c = true := by
  simp only [letters, isIdentifierStart, Set.mem_union, Set.mem_Icc, Set.mem_singleton_iff,
    Bool.or_eq_true, Bool.and_eq_true, decide_eq_true_eq, beq_iff_eq]

theorem mem_digits_iff {c : Char} : c ∈ digits ↔ Text.isDigit c = true := by
  simp [digits, Text.isDigit]

theorem mem_identifiers_iff : text ∈ identifiers ↔ isIdentifier text = true := by
  rw [identifiers, mem_oneOf_mul_iff]
  cases text with
  | nil => simp [isIdentifier]
  | cons first rest =>
      simp [isIdentifier, isIdentifierPart, mem_kstar_oneOf_iff, mem_letters_iff, mem_digits_iff]

theorem mem_numerals_iff : text ∈ numerals ↔ isNumeral text = true := by
  rw [numerals, mem_oneOf_mul_iff]
  cases text with
  | nil => simp [isNumeral]
  | cons first rest => simp [isNumeral, mem_kstar_oneOf_iff, mem_digits_iff]

theorem mem_steps_iff : text ∈ steps ↔ ∃ step : Segment, step.text = text := by
  simp only [steps, Language.mem_add, Language.mem_mul]
  constructor
  · rintro (⟨_, rfl, name, named, rfl⟩ | ⟨_, ⟨_, rfl, digits, numbered, rfl⟩, _, rfl, rfl⟩)
    · exact ⟨.member ⟨name, mem_identifiers_iff.mp named⟩, rfl⟩
    · exact ⟨.element ⟨digits, mem_numerals_iff.mp numbered⟩, rfl⟩
  · rintro ⟨step, rfl⟩
    cases step with
    | member name =>
        exact .inl ⟨_, rfl, name.val, mem_identifiers_iff.mpr name.property, rfl⟩
    | element digits =>
        have numbered := mem_numerals_iff.mpr digits.property
        exact .inr ⟨_, ⟨_, rfl, digits.val, numbered, rfl⟩, _, rfl, rfl⟩

theorem mem_paths_iff_splits : text ∈ paths ↔ ∃ parts, Splits text parts := by
  simp only [paths, Language.mem_mul, Language.mem_kstar]
  constructor
  · rintro ⟨head, named, _, ⟨pieces, rfl, stepwise⟩, joined⟩
    exact ⟨(head, pieces), named, stepwise, joined⟩
  · rintro ⟨⟨head, pieces⟩, named, stepwise, joined⟩
    exact ⟨head, named, _, ⟨pieces, rfl, stepwise⟩, joined⟩

end PathLanguage

namespace FieldPath

open PathLanguage

/-- The texts of the head and of each further step. -/
def parts (path : FieldPath) : List Char × List (List Char) :=
  (path.head.val, path.segments.map Segment.text)

theorem join_parts (path : FieldPath) : path.parts.1 ++ path.parts.2.flatten = path.text := by
  rw [parts, text, List.flatMap_def]

/-- A text falls into the parts of a path that has this text, and into no others. -/
theorem splits_iff {text : List Char} {pieces : List Char × List (List Char)} :
    Splits text pieces ↔ ∃ path : FieldPath, path.text = text ∧ path.parts = pieces := by
  constructor
  · rcases pieces with ⟨head, tail⟩
    rintro ⟨named, stepwise, rfl⟩
    -- Every piece is the text of a step, so the pieces come from a list of steps.
    have spelled : tail ∈ Set.range (List.map Segment.text) := by
      rw [Set.range_list_map]
      exact fun piece inside => mem_steps_iff.mp (stepwise piece inside)
    rcases spelled with ⟨segments, rfl⟩
    let path : FieldPath := ⟨⟨head, mem_identifiers_iff.mp named⟩, segments⟩
    exact ⟨path, path.join_parts.symm, rfl⟩
  · rintro ⟨path, rfl, rfl⟩
    refine ⟨mem_identifiers_iff.mpr path.head.property, ?_, path.join_parts⟩
    intro piece inside
    rcases List.mem_map.mp inside with ⟨step, -, rfl⟩
    exact mem_steps_iff.mpr ⟨step, rfl⟩

theorem splits_parts (path : FieldPath) : Splits path.text path.parts :=
  splits_iff.mpr ⟨path, rfl, rfl⟩

theorem existsUnique_splits (path : FieldPath) : ∃! pieces, Splits path.text pieces := by
  refine ⟨path.parts, path.splits_parts, ?_⟩
  intro pieces splits
  rcases splits_iff.mp splits with ⟨other, same, rfl⟩
  rw [text_injective same]

theorem mem_paths_iff {text : List Char} : text ∈ paths ↔ ∃ path : FieldPath, path.text = text := by
  rw [mem_paths_iff_splits]
  constructor
  · rintro ⟨pieces, splits⟩
    rcases splits_iff.mp splits with ⟨path, spelled, -⟩
    exact ⟨path, spelled⟩
  · rintro ⟨path, rfl⟩
    exact ⟨path.parts, path.splits_parts⟩

/-! ## Reading a name -/

/-- The names of paths are the words of the language, with one `$.` in front of them or without. The
path that is read has this word as its text; its parts are the only identifier and steps that the
word falls into; and it is read again from its text and from its rooted form. -/
theorem parse?_accepts_paths (name : String) :
    ((∃ path, parse? name = some path) ↔
        ∃ word ∈ paths, name.toList = word ∨ name.toList = '$' :: '.' :: word) ∧
      ∀ path, parse? name = some path →
        (name = path.toString ∨ name = "$." ++ path.toString) ∧
          (∃! pieces, Splits path.toString.toList pieces) ∧
          Splits path.toString.toList path.parts ∧
          parse? path.toString = some path ∧ parse? path.rooted = some path := by
  constructor
  · simp only [parse?_eq_some_iff, withoutRoot_eq_text_iff, mem_paths_iff]
    constructor
    · rintro ⟨path, spelled⟩
      exact ⟨path.text, ⟨path, rfl⟩, spelled⟩
    · rintro ⟨_, ⟨path, rfl⟩, spelled⟩
      exact ⟨path, spelled⟩
  · intro path read
    rw [toString, String.toList_ofList]
    refine ⟨parse?_eq_some_iff_toString.mp read, path.existsUnique_splits, path.splits_parts, ?_, ?_⟩
    · exact parse?_eq_some_iff_toString.mpr (.inl rfl)
    · exact parse?_eq_some_iff_toString.mpr (.inr path.rooted_eq)

/-- The path of the id of an account, whose index has leading zeros. -/
def accountId : FieldPath where
  head := ⟨"payer".toList, by decide⟩
  segments := [.member ⟨"accounts".toList, by decide⟩, .element ⟨"007".toList, by decide⟩,
    .member ⟨"id".toList, by decide⟩]

/-- The digits of the index are kept as they were written. -/
theorem parse?_accepts_accountId :
    parse? "$.payer.accounts[007].id" = some accountId ∧
      (∃! pieces, Splits "payer.accounts[007].id".toList pieces) ∧
      Splits "payer.accounts[007].id".toList
        ("payer".toList, [".accounts".toList, "[007]".toList, ".id".toList]) ∧
      parse? "payer.accounts[007].id" = some accountId := by
  have read : parse? "$.payer.accounts[007].id" = some accountId := by decide
  rcases (parse?_accepts_paths _).2 accountId read with ⟨-, unique, splits, again, -⟩
  exact ⟨read, unique, splits, again⟩

/-- A second root, an open bracket, a digit of another script and the end of a line are no parts of
a path. -/
example :
    ∀ name ∈ ["$.$.amount", "fees[0", "fees[١]", "amount\n"], parse? name = none := by
  decide

end FieldPath

end TransactionLedger.Query
