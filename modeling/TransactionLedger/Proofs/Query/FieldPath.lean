import TransactionLedger.Query.FieldPath

/-!
# The text of a path

The text of a path consists of identifier characters, dots and brackets. No two lists of steps have
the same text: every step starts at a separator, and there is no separator within a step. For the
same reason cutting the text of a path gives its steps, and a path is read from no other text, but
for a `$.` in front of it.
-/

namespace TransactionLedger.Query

/-- The characters in front of which a step starts. -/
def isSeparator (c : Char) : Bool :=
  c == '.' || c == '['

/-- The characters of a path. -/
def isPathChar (c : Char) : Bool :=
  isIdentifierPart c || c == '.' || c == '[' || c == ']'

theorem isSeparator_eq_false_of_isIdentifierPart {c : Char} (part : isIdentifierPart c = true) :
    isSeparator c = false := by
  simp only [isSeparator, Bool.or_eq_false_iff, beq_eq_false_iff_ne]
  constructor <;> rintro rfl <;> exact absurd part (by decide)

theorem isIdentifierPart_of_isIdentifierStart {c : Char} (start : isIdentifierStart c = true) :
    isIdentifierPart c = true := by
  simp [isIdentifierPart, start]

theorem isIdentifierPart_of_isDigit {c : Char} (digit : Text.isDigit c = true) :
    isIdentifierPart c = true := by
  simp [isIdentifierPart, digit]

namespace Identifier

theorem part_of_mem (name : Identifier) {c : Char} (inside : c ∈ name.val) :
    isIdentifierPart c = true := by
  rcases name with ⟨text, named⟩
  cases text with
  | nil => exact absurd named (by decide)
  | cons first rest =>
      simp only [isIdentifier, Bool.and_eq_true, List.all_eq_true] at named
      rcases List.mem_cons.mp inside with rfl | inside
      · exact isIdentifierPart_of_isIdentifierStart named.1
      · exact named.2 c inside

end Identifier

namespace Numeral

theorem digit_of_mem (numeral : Numeral) {c : Char} (inside : c ∈ numeral.val) :
    Text.isDigit c = true := by
  have numbered := numeral.property
  simp only [isNumeral, Bool.and_eq_true, List.all_eq_true] at numbered
  exact numbered.2 c inside

end Numeral

namespace Segment

theorem isPathChar_of_mem_text {segment : Segment} {c : Char} (inside : c ∈ segment.text) :
    isPathChar c = true := by
  cases segment with
  | member name =>
      rcases List.mem_cons.mp inside with rfl | inside
      · rfl
      · simp [isPathChar, name.part_of_mem inside]
  | element digits =>
      simp only [text, List.cons_append, List.mem_cons, List.mem_append, List.not_mem_nil,
        or_false] at inside
      rcases inside with rfl | inside | rfl
      · rfl
      · simp [isPathChar, isIdentifierPart_of_isDigit (digits.digit_of_mem inside)]
      · rfl

/-- A step is a separator with a run without separators. -/
theorem text_eq_cons (segment : Segment) :
    ∃ separator run, segment.text = separator :: run ∧ isSeparator separator = true ∧
      ∀ c ∈ run, isSeparator c = false := by
  cases segment with
  | member name =>
      refine ⟨'.', name.val, rfl, rfl, ?_⟩
      intro c inside
      exact isSeparator_eq_false_of_isIdentifierPart (name.part_of_mem inside)
  | element digits =>
      refine ⟨'[', digits.val ++ [']'], rfl, rfl, ?_⟩
      intro c inside
      rcases List.mem_append.mp inside with inside | inside
      · exact isSeparator_eq_false_of_isIdentifierPart
          (isIdentifierPart_of_isDigit (digits.digit_of_mem inside))
      · rw [List.mem_singleton.mp inside]
        rfl

theorem text_injective {first second : Segment} (same : first.text = second.text) :
    first = second := by
  cases first with
  | member name =>
      cases second with
      | member other => simpa [text, Subtype.ext_iff] using same
      | element digits => simp [text] at same
  | element digits =>
      cases second with
      | member name => simp [text] at same
      | element other => simpa [text, Subtype.ext_iff] using same

end Segment

/-- Two runs without separators that are followed by a separator or by the end are the same. -/
theorem run_unique {run other rest otherRest : List Char}
    (plain : ∀ c ∈ run, isSeparator c = false) (otherPlain : ∀ c ∈ other, isSeparator c = false)
    (stops : ∀ c ∈ rest.head?, isSeparator c = true)
    (otherStops : ∀ c ∈ otherRest.head?, isSeparator c = true)
    (same : run ++ rest = other ++ otherRest) : run = other ∧ rest = otherRest := by
  induction run generalizing other with
  | nil =>
      cases other with
      | nil => exact ⟨rfl, by simpa using same⟩
      | cons c more =>
          have starts : rest = c :: (more ++ otherRest) := by simpa using same
          have separates := stops c (by simp [starts])
          rw [otherPlain c List.mem_cons_self] at separates
          cases separates
  | cons c run ih =>
      cases other with
      | nil =>
          have starts : c :: (run ++ rest) = otherRest := by simpa using same
          have separates := otherStops c (by simp [← starts])
          rw [plain c List.mem_cons_self] at separates
          cases separates
      | cons d more =>
          simp only [List.cons_append, List.cons.injEq] at same
          rcases same with ⟨rfl, same⟩
          have tails := ih (fun c inside => plain c (List.mem_cons_of_mem _ inside))
            (fun c inside => otherPlain c (List.mem_cons_of_mem _ inside)) same
          exact ⟨by rw [tails.1], tails.2⟩

/-- The text of some steps. -/
def stepsText (steps : List Segment) : List Char :=
  steps.flatMap Segment.text

@[simp]
theorem stepsText_nil : stepsText [] = [] :=
  rfl

@[simp]
theorem stepsText_cons (step : Segment) (rest : List Segment) :
    stepsText (step :: rest) = step.text ++ stepsText rest :=
  rfl

theorem isPathChar_of_mem_stepsText {steps : List Segment} {c : Char}
    (inside : c ∈ stepsText steps) : isPathChar c = true := by
  rcases List.mem_flatMap.mp inside with ⟨step, -, inside⟩
  exact Segment.isPathChar_of_mem_text inside

theorem separator_of_mem_head?_stepsText {steps : List Segment} :
    ∀ c ∈ (stepsText steps).head?, isSeparator c = true := by
  cases steps with
  | nil => simp
  | cons step rest =>
      rcases step.text_eq_cons with ⟨separator, run, shape, separates, -⟩
      simp [shape, separates]

theorem stepsText_injective {first second : List Segment}
    (same : stepsText first = stepsText second) : first = second := by
  induction first generalizing second with
  | nil =>
      cases second with
      | nil => rfl
      | cons step rest =>
          rcases step.text_eq_cons with ⟨separator, run, shape, -⟩
          simp [shape] at same
  | cons step rest ih =>
      rcases step.text_eq_cons with ⟨separator, run, shape, -, plain⟩
      cases second with
      | nil => simp [shape] at same
      | cons other more =>
          rcases other.text_eq_cons with ⟨otherSeparator, otherRun, otherShape, -, otherPlain⟩
          simp only [stepsText_cons, shape, otherShape, List.cons_append, List.cons.injEq] at same
          rcases same with ⟨rfl, same⟩
          rcases run_unique plain otherPlain separator_of_mem_head?_stepsText
            separator_of_mem_head?_stepsText same with ⟨rfl, tails⟩
          rw [Segment.text_injective (shape.trans otherShape.symm), ih tails]

/-! ## Reading a path -/

namespace Segment

/-- The separator of a step with the run of characters behind it. -/
def piece : Segment → Char × List Char
  | member name => ('.', name.val)
  | element digits => ('[', digits.val ++ [']'])

theorem cons_piece (segment : Segment) : segment.piece.1 :: segment.piece.2 = segment.text := by
  cases segment <;> rfl

theorem isSeparator_piece (segment : Segment) : isSeparator segment.piece.1 = true := by
  cases segment <;> rfl

theorem isSeparator_of_mem_piece {segment : Segment} {c : Char} (inside : c ∈ segment.piece.2) :
    isSeparator c = false := by
  rcases segment.text_eq_cons with ⟨separator, run, shape, -, plain⟩
  rw [← cons_piece, List.cons.injEq] at shape
  exact plain c (shape.2 ▸ inside)

/-- A step is read from its piece, and from no other. -/
theorem ofPiece?_eq_some_iff {piece : Char × List Char} (separates : isSeparator piece.1 = true)
    {segment : Segment} : ofPiece? piece = some segment ↔ piece = segment.piece := by
  rcases piece with ⟨separator, run⟩
  constructor
  · intro read
    simp only [ofPiece?] at read
    split at read
    · rename_i dot
      split at read
      · rcases Option.some.inj read with rfl
        rw [Segment.piece, dot]
      · contradiction
    · rename_i noDot
      have bracket : separator = '[' := by simpa [isSeparator, noDot] using separates
      split at read
      · rename_i closed
        rcases List.getLast?_eq_some_iff.mp closed with ⟨digits, rfl⟩
        split at read
        · rcases Option.some.inj read with rfl
          simp [Segment.piece, bracket]
        · contradiction
      · contradiction
  · intro spelled
    cases segment with
    | member name =>
        simp only [piece, Prod.mk.injEq] at spelled
        rcases spelled with ⟨rfl, rfl⟩
        simp [ofPiece?, name.property]
    | element digits =>
        simp only [piece, Prod.mk.injEq] at spelled
        rcases spelled with ⟨rfl, rfl⟩
        simp [ofPiece?, digits.property]

end Segment

namespace FieldPath

theorem cut_cons (c : Char) (rest : List Char) :
    cut (c :: rest) =
      if isSeparator c then ([], (c, (cut rest).1) :: (cut rest).2)
      else (c :: (cut rest).1, (cut rest).2) := by
  simp [cut, isSeparator]

/-- Cutting leaves a run as it is. -/
theorem cut_run_append {run : List Char} (plain : ∀ c ∈ run, isSeparator c = false)
    (rest : List Char) : cut (run ++ rest) = (run ++ (cut rest).1, (cut rest).2) := by
  induction run with
  | nil => rfl
  | cons c run ih =>
      rcases List.forall_mem_cons.mp plain with ⟨here, behind⟩
      simp [cut_cons, ih behind, here]

/-- Cutting takes the text of some steps apart into their pieces. -/
theorem cut_stepsText (steps : List Segment) : cut (stepsText steps) = ([], steps.map Segment.piece) := by
  induction steps with
  | nil => rfl
  | cons step rest ih =>
      rw [stepsText_cons, ← step.cons_piece, List.cons_append, cut_cons,
        if_pos step.isSeparator_piece,
        cut_run_append (fun _ inside => Segment.isSeparator_of_mem_piece inside), ih]
      simp

/-- Every piece starts with a separator. -/
theorem isSeparator_of_mem_cut {text : List Char} {piece : Char × List Char}
    (inside : piece ∈ (cut text).2) : isSeparator piece.1 = true := by
  induction text with
  | nil => contradiction
  | cons c rest ih =>
      rw [cut_cons] at inside
      split at inside
      · rename_i separates
        rcases List.mem_cons.mp inside with rfl | behind
        · exact separates
        · exact ih behind
      · exact ih inside

/-- Steps are read from their pieces, and from no others. -/
theorem mapM_ofPiece?_eq_some_iff {pieces : List (Char × List Char)}
    (separate : ∀ piece ∈ pieces, isSeparator piece.1 = true) {steps : List Segment} :
    pieces.mapM Segment.ofPiece? = some steps ↔ pieces = steps.map Segment.piece := by
  induction pieces generalizing steps with
  | nil => cases steps <;> simp
  | cons piece rest ih =>
      rcases List.forall_mem_cons.mp separate with ⟨here, behind⟩
      simp only [List.mapM_cons, Option.bind_eq_bind, Option.bind_eq_some_iff,
        Segment.ofPiece?_eq_some_iff here, ih behind, Option.pure_def, Option.some.injEq]
      constructor
      · rintro ⟨step, rfl, more, rfl, rfl⟩
        rfl
      · intro shape
        rcases List.map_eq_cons_iff.mp shape.symm with ⟨step, more, rfl, rfl, rfl⟩
        exact ⟨step, rfl, more, rfl, rfl⟩

/-- A path is read from its own text, and from no other. -/
theorem ofText?_eq_some_iff {text : List Char} {path : FieldPath} :
    ofText? text = some path ↔ text = path.text := by
  constructor
  · intro read
    simp only [ofText?] at read
    split at read
    · rcases Option.map_eq_some_iff.mp read with ⟨steps, stepsRead, rfl⟩
      rw [mapM_ofPiece?_eq_some_iff fun _ => isSeparator_of_mem_cut] at stepsRead
      calc text = join (cut text).1 (cut text).2 := (join_cut text).symm
        _ = (cut text).1 ++ steps.flatMap Segment.text := by
          simp only [stepsRead, join, List.flatMap_map, Segment.cons_piece]
    · contradiction
  · rintro rfl
    have pieces : cut path.text = (path.head.val, path.segments.map Segment.piece) := by
      have plain := fun c inside =>
        isSeparator_eq_false_of_isIdentifierPart (path.head.part_of_mem (c := c) inside)
      change cut (path.head.val ++ stepsText path.segments) = _
      rw [cut_run_append plain, cut_stepsText, List.append_nil]
    have separate : ∀ piece ∈ path.segments.map Segment.piece, isSeparator piece.1 = true := by
      intro piece inside
      rcases List.mem_map.mp inside with ⟨step, -, rfl⟩
      exact step.isSeparator_piece
    rw [ofText?, pieces]
    simp [path.head.property, (mapM_ofPiece?_eq_some_iff separate).mpr rfl]

theorem text_injective {first second : FieldPath} (same : first.text = second.text) :
    first = second := by
  have read : ofText? first.text = some second := ofText?_eq_some_iff.mpr same
  rw [ofText?_eq_some_iff.mpr rfl] at read
  exact Option.some.inj read

/-- A name is read as a path if it is the path's text, but for one leading `$.`. -/
theorem parse?_eq_some_iff {name : String} {path : FieldPath} :
    parse? name = some path ↔ withoutRoot name.toList = path.text :=
  ofText?_eq_some_iff

theorem isPathChar_of_mem_text {path : FieldPath} {c : Char} (inside : c ∈ path.text) :
    isPathChar c = true := by
  rcases List.mem_append.mp inside with inside | inside
  · simp [isPathChar, path.head.part_of_mem inside]
  · exact isPathChar_of_mem_stepsText inside

/-- No path starts at the root, so a second `$.` is not removed. -/
theorem text_ne_cons_dollar (path : FieldPath) (rest : List Char) : path.text ≠ '$' :: rest := by
  intro spelled
  have inside : '$' ∈ path.text := by simp [spelled]
  exact absurd (isPathChar_of_mem_text inside) (by decide)

theorem withoutRoot_eq_text_iff {name : List Char} {path : FieldPath} :
    withoutRoot name = path.text ↔ name = path.text ∨ name = '$' :: '.' :: path.text := by
  unfold withoutRoot
  split
  · simp [(path.text_ne_cons_dollar _).symm]
  · rename_i unrooted
    exact (or_iff_left (unrooted path.text)).symm

theorem rooted_eq (path : FieldPath) : path.rooted = "$." ++ path.toString := by
  simp [rooted, toString, ← String.toList_inj]

/-- Each path is read from two names. -/
theorem parse?_eq_some_iff_toString {name : String} {path : FieldPath} :
    parse? name = some path ↔ name = path.toString ∨ name = "$." ++ path.toString := by
  rw [parse?_eq_some_iff, withoutRoot_eq_text_iff, ← rooted_eq, toString, rooted,
    ← String.toList_inj, ← String.toList_inj, String.toList_ofList, String.toList_ofList]

end FieldPath

end TransactionLedger.Query
