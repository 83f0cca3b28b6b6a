/-!
# Patterns

In a pattern, a percent sign stands for any run of characters and an underscore for one character;
every other character stands for itself, an ASCII letter in either case. The main statement says
that the search with its early stop decides just this.
-/

namespace TransactionLedger.Sql.Pattern

/-- A character of a pattern that stands for itself also stands for the same ASCII letter in the
other case. -/
def sameLetter (c d : Char) : Bool :=
  c == d || (c.toNat < 128 && d.toNat < 128 && c.toLower == d.toLower)

/-- A pattern matches a text. -/
inductive Matches : List Char → List Char → Prop
  | nil : Matches [] []
  | run {pattern text : List Char} (skipped : List Char) (rest : Matches pattern text) :
    Matches ('%' :: pattern) (skipped ++ text)
  | any {pattern text : List Char} (c : Char) (rest : Matches pattern text) :
    Matches ('_' :: pattern) (c :: text)
  | same {pattern text : List Char} {c d : Char} (plain : c ≠ '%' ∧ c ≠ '_')
    (letter : sameLetter c d = true) (rest : Matches pattern text) :
    Matches (c :: pattern) (d :: text)

/-- What comes of matching a pattern at the start of a text. -/
inductive Outcome
  | found
  | mismatch
  /-- Not even the end of the text can match. -/
  | hopeless
  deriving DecidableEq, Repr

/-- Matches at the start of a text or further on. -/
def search (scan : List Char → Outcome) : List Char → Outcome
  | [] => if scan [] = .found then .found else .hopeless
  | c :: rest =>
    match scan (c :: rest) with
    | .mismatch => search scan rest
    | outcome => outcome

/-- Matches a pattern with a text. -/
def scan : List Char → List Char → Outcome
  | [], [] => .found
  | [], _ :: _ => .mismatch
  | c :: pattern, text =>
    if c = '%' then search (scan pattern) text
    else
      match text with
      | [] => .hopeless
      | d :: text =>
        if c = '_' ∨ sameLetter c d = true then scan pattern text else .mismatch

/-- The characters of a pattern or text up to the first NUL; two characters that are no characters
count as the replacement character. -/
def effective (text : List Char) : List Char :=
  (text.takeWhile (· ≠ '\x00')).map fun c =>
    if c.toNat = 0xFFFE ∨ c.toNat = 0xFFFF then '\uFFFD' else c

/-- The largest number of bytes of a pattern. -/
def byteLimit : Nat := 50000

/-- The text matches the pattern. -/
def accepts (pattern text : List Char) : Bool :=
  scan (effective pattern) (effective text) == .found

/-- The rest of a text behind some skipped characters. -/
def IsRest (rest text : List Char) : Prop :=
  ∃ skipped, text = skipped ++ rest

/-- What is behind something that was skipped is behind all that was skipped. -/
theorem IsRest.trans {last rest text : List Char} (inner : IsRest last rest)
    (outer : IsRest rest text) : IsRest last text := by
  obtain ⟨skipped, rfl⟩ := outer
  obtain ⟨more, rfl⟩ := inner
  exact ⟨skipped ++ more, by simp⟩

/-- What is behind a text is all of it, or behind its first character. -/
theorem isRest_cons {rest text : List Char} {c : Char} :
    IsRest rest (c :: text) ↔ rest = c :: text ∨ IsRest rest text := by
  constructor
  · rintro ⟨_ | ⟨d, skipped⟩, split⟩
    · exact .inl split.symm
    · simp only [List.cons_append, List.cons.injEq] at split
      exact .inr ⟨skipped, split.2⟩
  · rintro (rfl | ⟨skipped, rfl⟩)
    · exact ⟨[], rfl⟩
    · exact ⟨c :: skipped, rfl⟩

/-- Only the empty text is behind the empty text. -/
theorem isRest_nil {rest : List Char} : IsRest rest [] ↔ rest = [] := by
  constructor
  · rintro ⟨skipped, split⟩
    exact (List.append_eq_nil_iff.1 split.symm).2
  · rintro rfl
    exact ⟨[], rfl⟩

/-- An outcome tells the truth about a predicate: whether it holds of the text, and if there is no
hope, that it holds of nothing behind it. -/
def Truthful (p : List Char → Prop) (scan : List Char → Outcome) : Prop :=
  (∀ text, scan text = .found ↔ p text) ∧
    ∀ text, scan text = .hopeless → ∀ rest, IsRest rest text → ¬ p rest

/-- A search finds a place if there is one, and gives up for good reasons. -/
theorem Truthful.search {p : List Char → Prop} {scan : List Char → Outcome}
    (truthful : Truthful p scan) :
    Truthful (fun text => ∃ rest, IsRest rest text ∧ p rest) (search scan) := by
  have decides : ∀ text, Pattern.search scan text = .found ↔ ∃ rest, IsRest rest text ∧ p rest := by
    intro text
    induction text with
    | nil =>
      simp only [isRest_nil, exists_eq_left]
      rw [← truthful.1]
      by_cases here : scan [] = .found <;> simp [Pattern.search, here]
    | cons c text ih =>
      simp only [isRest_cons, or_and_right, exists_or, exists_eq_left]
      rw [← ih, ← truthful.1 (c :: text)]
      rcases outcome : scan (c :: text) with _ | _ | _
      · simp [Pattern.search, outcome]
      · simp [Pattern.search, outcome]
      · have nowhere := truthful.2 _ outcome
        simp only [Pattern.search, outcome, reduceCtorEq, false_or, false_iff]
        rw [ih]
        rintro ⟨rest, behind, holds⟩
        exact nowhere rest (isRest_cons.2 (.inr behind)) holds
  refine ⟨decides, ?_⟩
  rintro text hopeless rest behind ⟨last, further, holds⟩
  have found := (decides text).2 ⟨last, further.trans behind, holds⟩
  rw [hopeless] at found
  cases found

/-- A pattern that starts with anything but a percent sign takes one character. -/
theorem Matches.first {c : Char} {pattern text : List Char} (matched : Matches (c :: pattern) text)
    (percent : c ≠ '%') :
    ∃ d rest, text = d :: rest ∧ (c = '_' ∨ sameLetter c d = true) ∧ Matches pattern rest := by
  cases matched with
  | run => exact absurd rfl percent
  | any d rest => exact ⟨d, _, rfl, .inl rfl, rest⟩
  | same _ letter rest => exact ⟨_, _, rfl, .inr letter, rest⟩

/-- The scan decides whether the pattern matches. -/
theorem truthful_scan (pattern : List Char) : Truthful (Matches pattern) (scan pattern) := by
  induction pattern with
  | nil =>
    constructor
    · rintro (_ | ⟨c, text⟩)
      · exact iff_of_true rfl .nil
      · exact iff_of_false (fun h => by cases h) (fun h => by cases h)
    · rintro (_ | ⟨c, text⟩) hopeless <;> cases hopeless
  | cons c pattern ih =>
    by_cases percent : c = '%'
    · subst percent
      have same : Matches ('%' :: pattern) =
          fun text => ∃ rest, IsRest rest text ∧ Matches pattern rest := by
        funext text
        apply propext
        constructor
        · intro matched
          cases matched with
          | run skipped rest => exact ⟨_, ⟨skipped, rfl⟩, rest⟩
          | same plain => exact absurd rfl plain.1
        · rintro ⟨rest, ⟨skipped, rfl⟩, matched⟩
          exact .run skipped matched
      have scanned : scan ('%' :: pattern) = search (scan pattern) := by
        funext text
        simp [scan]
      rw [same, scanned]
      exact ih.search
    · have step : ∀ d text, Matches (c :: pattern) (d :: text) ↔
          (c = '_' ∨ sameLetter c d = true) ∧ Matches pattern text := by
        intro d text
        constructor
        · intro matched
          obtain ⟨e, rest, split, letter, inner⟩ := matched.first percent
          simp only [List.cons.injEq] at split
          obtain ⟨rfl, rfl⟩ := split
          exact ⟨letter, inner⟩
        · rintro ⟨letter, rest⟩
          by_cases underscore : c = '_'
          · subst underscore
            exact .any d rest
          · exact .same ⟨percent, underscore⟩ (letter.resolve_left underscore) rest
      have never : ¬ Matches (c :: pattern) [] := by
        intro matched
        obtain ⟨e, rest, split, -⟩ := matched.first percent
        cases split
      constructor
      · rintro (_ | ⟨d, text⟩)
        · simp [scan, percent, never]
        · rw [step, ← ih.1]
          by_cases letter : c = '_' ∨ sameLetter c d = true <;> simp [scan, percent, letter]
      · rintro (_ | ⟨d, text⟩) hopeless rest behind matched
        · rw [isRest_nil] at behind
          subst behind
          exact never matched
        · by_cases letter : c = '_' ∨ sameLetter c d = true
          · simp only [scan, percent, if_false, letter, if_true] at hopeless
            rcases rest with _ | ⟨e, rest⟩
            · exact never matched
            · have inner := ((step e rest).1 matched).2
              refine ih.2 text hopeless rest ?_ inner
              rcases isRest_cons.1 behind with same | further
              · simp only [List.cons.injEq] at same
                exact same.2 ▸ ⟨[], rfl⟩
              · exact IsRest.trans ⟨[e], rfl⟩ further
          · simp [scan, percent, letter] at hopeless

/-- A text is accepted just when the pattern matches it. -/
theorem accepts_iff (pattern text : List Char) :
    accepts pattern text = true ↔ Matches (effective pattern) (effective text) := by
  rw [← (truthful_scan _).1]
  simp [accepts]

end TransactionLedger.Sql.Pattern
