import Mathlib.Data.List.Infix
import Mathlib.Data.List.TakeWhile
import TransactionLedger.Filter.Basic
import TransactionLedger.Sql.Pattern

/-!
# Patterns that find a fragment

The pattern of a fragment is the fragment between two percent signs. It matches the texts with a
part that the fragment itself matches. Every text that contains the fragment is among them. There
are no others if each character of the fragment stands for itself alone, so if it is neither a
percent sign, nor an underscore, nor an ASCII letter, nor the replacement character or one of the
two characters that count as it.
-/

namespace TransactionLedger.Sql.Pattern

/-- Some part of the text matches the pattern. -/
def FoundIn (pattern text : List Char) : Prop :=
  ∃ part, part <:+: text ∧ Matches pattern part

/-! ## Runs at both ends -/

theorem Matches.append_run {pattern text : List Char} (matched : Matches pattern text)
    (rest : List Char) : Matches (pattern ++ ['%']) (text ++ rest) := by
  -- The percent sign at the end takes the rest, wherever the match ends.
  induction matched with
  | nil => simpa using Matches.run rest .nil
  | run skipped inner ih =>
      rw [List.append_assoc]
      exact .run skipped ih
  | any c inner ih => exact .any c ih
  | same plain letter inner ih => exact .same plain letter ih

theorem exists_of_matches_append_run {pattern text : List Char}
    (matched : Matches (pattern ++ ['%']) text) :
    ∃ part rest, text = part ++ rest ∧ Matches pattern part := by
  induction pattern generalizing text with
  | nil => exact ⟨[], text, rfl, .nil⟩
  | cons c pattern ih =>
      rw [List.cons_append] at matched
      cases matched with
      | run skipped inner =>
          rcases ih inner with ⟨part, rest, rfl, found⟩
          exact ⟨skipped ++ part, rest, by simp, .run skipped found⟩
      | any c inner =>
          rcases ih inner with ⟨part, rest, rfl, found⟩
          exact ⟨c :: part, rest, rfl, .any c found⟩
      | same plain letter inner =>
          rcases ih inner with ⟨part, rest, rfl, found⟩
          exact ⟨_ :: part, rest, rfl, .same plain letter found⟩

/-- Between two percent signs a pattern matches the texts in which it is found. -/
theorem matches_between_runs_iff {pattern text : List Char} :
    Matches ('%' :: (pattern ++ ['%'])) text ↔ FoundIn pattern text := by
  constructor
  · intro matched
    cases matched with
    | run skipped inner =>
        rcases exists_of_matches_append_run inner with ⟨part, rest, rfl, found⟩
        exact ⟨part, ⟨skipped, rest, by simp⟩, found⟩
    | same plain => exact absurd rfl plain.1
  · rintro ⟨part, ⟨front, back, rfl⟩, found⟩
    rw [List.append_assoc]
    exact .run front (found.append_run back)

instance (pattern text : List Char) : Decidable (FoundIn pattern text) :=
  decidable_of_iff (scan ('%' :: (pattern ++ ['%'])) text = .found)
    (((truthful_scan _).1 text).trans matches_between_runs_iff)

/-! ## Characters that stand for themselves -/

/-- The character that is compared for a character. -/
def shown (c : Char) : Char :=
  if c.toNat = 0xFFFE ∨ c.toNat = 0xFFFF then '\uFFFD' else c

theorem effective_of_no_nul {text : List Char} (noNul : '\x00' ∉ text) :
    effective text = text.map shown := by
  have whole : text.takeWhile (· ≠ '\x00') = text := by
    rw [List.takeWhile_eq_self_iff]
    intro c inside
    have differs : c ≠ '\x00' := fun same => noNul (same ▸ inside)
    simpa using differs
  rw [effective, whole]
  rfl

/-- The character of a pattern stands for itself and for nothing else. -/
def StandsForItself (c : Char) : Prop :=
  c ≠ '%' ∧ c ≠ '_' ∧ c.isAlpha = false ∧
    c.toNat ≠ 0xFFFD ∧ c.toNat ≠ 0xFFFE ∧ c.toNat ≠ 0xFFFF

theorem StandsForItself.shown_eq_iff {c d : Char} (alone : StandsForItself c) :
    shown d = c ↔ d = c := by
  rcases alone with ⟨-, -, -, replacement, first, second⟩
  by_cases special : d.toNat = 0xFFFE ∨ d.toNat = 0xFFFF
  · rw [shown, if_pos special]
    constructor
    · rintro rfl
      exact absurd rfl replacement
    · rintro rfl
      exact absurd special (by simp [first, second])
  · rw [shown, if_neg special]

theorem map_shown_eq_iff {pattern text : List Char} (alone : ∀ c ∈ pattern, StandsForItself c) :
    text.map shown = pattern ↔ text = pattern := by
  induction text generalizing pattern with
  | nil => rfl
  | cons d rest ih =>
      cases pattern with
      | nil => simp
      | cons c pattern =>
          rcases List.forall_mem_cons.mp alone with ⟨head, tail⟩
          rw [List.map_cons, List.cons.injEq, List.cons.injEq, head.shown_eq_iff, ih tail]

/-- Lower case changes nothing but capitals, and gives letters for them. -/
theorem toLower_eq_of_isAlpha_eq_false {c d : Char} (noLetter : c.isAlpha = false)
    (same : c.toLower = d.toLower) : c = d := by
  unfold Char.isAlpha Char.isUpper Char.isLower at noLetter
  unfold Char.toLower at same
  simp only [Bool.or_eq_false_iff, decide_eq_false_iff_not, Bool.and_eq_false_iff] at noLetter
  rcases noLetter with ⟨noCapital, noSmall⟩
  -- A capital would have become a small letter, and the first character is none.
  by_cases capital : d.val ≥ 'A'.val ∧ d.val ≤ 'Z'.val
  · have value := congrArg Char.val same
    simp only [noCapital, capital, and_self, dite_true, dite_false] at value
    rw [value] at noSmall
    simp only [ge_iff_le, UInt32.le_iff_toNat_le, UInt32.toNat_add] at capital noSmall
    have bounds : 65 ≤ d.val.toNat ∧ d.val.toNat ≤ 90 := capital
    have shift : ('a'.val - 'A'.val).toNat = 32 := rfl
    have first : 'a'.val.toNat = 97 := rfl
    have last : 'z'.val.toNat = 122 := rfl
    omega
  · simpa only [noCapital, capital, dite_false] using same

theorem StandsForItself.sameLetter_iff {c d : Char} (alone : StandsForItself c) :
    sameLetter c d = true ↔ c = d := by
  simp only [sameLetter, Bool.or_eq_true, beq_iff_eq, Bool.and_eq_true]
  constructor
  · rintro (same | ⟨-, same⟩)
    · exact same
    · exact toLower_eq_of_isAlpha_eq_false alone.2.2.1 same
  · exact fun same => .inl same

/-- A pattern of such characters matches itself only. -/
theorem matches_iff_eq {pattern text : List Char}
    (alone : ∀ c ∈ pattern, StandsForItself c) : Matches pattern text ↔ text = pattern := by
  induction pattern generalizing text with
  | nil =>
      constructor
      · rintro ⟨⟩
        rfl
      · rintro rfl
        exact .nil
  | cons c pattern ih =>
      rcases List.forall_mem_cons.mp alone with ⟨head, tail⟩
      constructor
      · intro matched
        cases matched with
        | run => exact absurd rfl head.1
        | any => exact absurd rfl head.2.1
        | same plain letter inner => rw [(ih tail).mp inner, head.sameLetter_iff.mp letter]
      · rintro rfl
        exact .same ⟨head.1, head.2.1⟩ (head.sameLetter_iff.mpr rfl) ((ih tail).mpr rfl)

/-- A text matches itself, whatever its characters stand for. -/
theorem matches_self (text : List Char) : Matches text text := by
  induction text with
  | nil => exact .nil
  | cons c rest ih =>
      by_cases percent : c = '%'
      · subst percent
        exact .run ['%'] ih
      · by_cases underscore : c = '_'
        · subst underscore
          exact .any '_' ih
        · exact .same ⟨percent, underscore⟩ (by simp [sameLetter]) ih

/-! ## Fragments -/

/-- The pattern of a fragment accepts the texts in which the fragment is found. -/
theorem accepts_fragmentPattern_iff {fragment : String} (noNul : '\x00' ∉ fragment.toList)
    {text : List Char} : accepts (Filter.fragmentPattern fragment).toList text = true ↔
      FoundIn (effective fragment.toList) (effective text) := by
  have plain : '\x00' ∉ '%' :: (fragment.toList ++ ['%']) := by simp [noNul]
  have spelled : (Filter.fragmentPattern fragment).toList =
      '%' :: (fragment.toList ++ ['%']) := by
    simp [Filter.fragmentPattern]
  rw [accepts_iff, spelled, effective_of_no_nul plain, effective_of_no_nul noNul,
    ← matches_between_runs_iff]
  simp [shown]

/-- A text that contains the fragment is found. -/
theorem foundIn_of_infix {fragment text : List Char} (noNul : '\x00' ∉ text)
    (contained : fragment <:+: text) : FoundIn (effective fragment) (effective text) := by
  have fragmentNoNul : '\x00' ∉ fragment := fun inside => noNul (contained.subset inside)
  rw [effective_of_no_nul noNul, effective_of_no_nul fragmentNoNul]
  exact ⟨fragment.map shown, contained.map shown, matches_self _⟩

/-- If each character of the fragment stands for itself alone, a text that is found contains it. -/
theorem infix_of_foundIn {fragment text : List Char} (noNul : '\x00' ∉ text)
    (fragmentNoNul : '\x00' ∉ fragment) (alone : ∀ c ∈ fragment, StandsForItself c)
    (found : FoundIn (effective fragment) (effective text)) : fragment <:+: text := by
  rw [effective_of_no_nul noNul, effective_of_no_nul fragmentNoNul,
    (map_shown_eq_iff alone).mpr rfl] at found
  rcases found with ⟨part, contained, matched⟩
  rcases List.infix_map_iff.mp contained with ⟨original, inside, rfl⟩
  rw [matches_iff_eq alone, map_shown_eq_iff alone] at matched
  rwa [← matched]

end TransactionLedger.Sql.Pattern
