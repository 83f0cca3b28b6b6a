import TransactionLedger.Filter.Condition

/-!
# Lexemes of conditions

The part of SQL in which conditions are written, cut into lexemes: a name or placeholder takes as
many characters as it can, a literal ends at a quote that is not doubled, and the words with a
meaning of their own are the same in any case. A text with anything else has no lexemes.
-/

namespace TransactionLedger.Sql

open TransactionLedger.Filter Query

/-- A piece of a condition's text. -/
inductive Lexeme
  | word (text : List Char)
  | parameter (name : List Char)
  | literal (text : List Char)
  | relation (which : Relation)
  | between
  | oneOf
  | conjunction
  | disjunction
  | opening
  | closing
  | comma
  deriving DecidableEq, Repr

namespace Lexeme

/-- The words with a meaning of their own. -/
def keywords : List (String × Lexeme) :=
  [("AND", conjunction), ("OR", disjunction), ("LIKE", relation .like), ("BETWEEN", between),
    ("IN", oneOf)]

/-- The lexeme that a run of identifier characters is. -/
def ofWord (run : List Char) : Lexeme :=
  match keywords.find? fun keyword => keyword.1.toList == run.map Char.toUpper with
  | some keyword => keyword.2
  | none => word run

end Lexeme

/-- Where the reader of a condition stands; what it has read of a lexeme is in reverse. -/
inductive Reader
  | outside
  | word (run : List Char)
  | parameter (run : List Char)
  | literal (run : List Char)
  /-- Behind a quote in a literal: its end, unless one more quote follows. -/
  | quote (run : List Char)
  /-- Behind an angle, which an equals sign may follow. -/
  | angle (strict loose : Relation)
  deriving DecidableEq, Repr

namespace Reader

/-- A character outside of lexemes. -/
def begin (c : Char) : Option (List Lexeme × Reader) :=
  if c = ' ' then some ([], outside)
  else if c = '(' then some ([.opening], outside)
  else if c = ')' then some ([.closing], outside)
  else if c = ',' then some ([.comma], outside)
  else if c = '=' then some ([.relation .equal], outside)
  else if c = '<' then some ([], angle .less .atMost)
  else if c = '>' then some ([], angle .greater .atLeast)
  else if c = ':' then some ([], parameter [])
  else if c = '\'' then some ([], literal [])
  else if isIdentifierStart c then some ([], word [c])
  else none

/-- The lexeme ends in front of the character. -/
def endBefore (lexeme : Lexeme) (c : Char) : Option (List Lexeme × Reader) :=
  (begin c).map fun next => (lexeme :: next.1, next.2)

/-- One more character: the lexemes that it completes, and where the reader stands then. -/
def step : Reader → Char → Option (List Lexeme × Reader)
  | outside, c => begin c
  | word run, c =>
    if isIdentifierPart c then some ([], word (c :: run)) else endBefore (.ofWord run.reverse) c
  | parameter run, c =>
    if isIdentifierPart c then some ([], parameter (c :: run))
    else if run = [] then none
    else endBefore (.parameter run.reverse) c
  | literal run, c =>
    if c = '\'' then some ([], quote run) else some ([], literal (c :: run))
  | quote run, c =>
    if c = '\'' then some ([], literal (c :: run)) else endBefore (.literal run.reverse) c
  | angle strict loose, c =>
    if c = '=' then some ([.relation loose], outside)
    else if c = '<' ∨ c = '>' then none
    else endBefore (.relation strict) c

/-- The lexemes that the end of the text completes. -/
def finish : Reader → Option (List Lexeme)
  | outside => some []
  | word run => some [.ofWord run.reverse]
  | parameter run => if run = [] then none else some [.parameter run.reverse]
  | literal _ => none
  | quote run => some [.literal run.reverse]
  | angle strict _ => some [.relation strict]

/-- The lexemes of the rest of a text. -/
def lexemes (reader : Reader) : List Char → Option (List Lexeme)
  | [] => reader.finish
  | c :: rest => do
    let (done, next) ← reader.step c
    let more ← lexemes next rest
    return done ++ more

end Reader

/-- The lexemes of a text. -/
def lexemes? (text : List Char) : Option (List Lexeme) :=
  Reader.outside.lexemes text

/-- The characters at which every lexeme ends. -/
def isBreak (c : Char) : Bool :=
  c == ' ' || c == '(' || c == ')' || c == ','

/-- Every lexeme in front of the text ends there. -/
def Breaks (text : List Char) : Prop :=
  ∀ c ∈ text.head?, isBreak c = true

@[simp]
theorem breaks_nil : Breaks [] := by
  simp [Breaks]

@[simp]
theorem breaks_cons {c : Char} {text : List Char} : Breaks (c :: text) ↔ isBreak c = true := by
  simp [Breaks]

theorem isBreak_cases {c : Char} (breaks : isBreak c = true) :
    c = ' ' ∨ c = '(' ∨ c = ')' ∨ c = ',' := by
  simpa [isBreak, or_assoc] using breaks

theorem isIdentifierPart_eq_false_of_isBreak {c : Char} (breaks : isBreak c = true) :
    isIdentifierPart c = false := by
  rcases isBreak_cases breaks with rfl | rfl | rfl | rfl <;> rfl

namespace Reader

theorem lexemes_cons_of_goesOn {reader : Reader} {c : Char} (next : Reader) (rest : List Char)
    (goesOn : reader.step c = some ([], next)) :
    reader.lexemes (c :: rest) = next.lexemes rest := by
  simp only [lexemes, goesOn, Option.bind_eq_bind, Option.bind_some]
  cases next.lexemes rest <;> rfl

theorem lexemes_cons_of_completes {reader : Reader} {c : Char} (lexeme : Lexeme)
    (rest : List Char) (completes : reader.step c = some ([lexeme], outside)) :
    reader.lexemes (c :: rest) = (outside.lexemes rest).map (lexeme :: ·) := by
  simp only [lexemes, completes, Option.bind_eq_bind, Option.bind_some]
  cases outside.lexemes rest <;> rfl

/-- In front of a break a lexeme ends, and the reader goes on outside of lexemes. -/
theorem lexemes_of_ends {reader : Reader} {lexeme : Lexeme} {rest : List Char}
    (finishes : reader.finish = some [lexeme])
    (ends : ∀ c, isBreak c = true → reader.step c = endBefore lexeme c) (breaks : Breaks rest) :
    reader.lexemes rest = (outside.lexemes rest).map (lexeme :: ·) := by
  cases rest with
  | nil =>
      simp only [lexemes, finishes]
      rfl
  | cons c rest =>
      rw [breaks_cons] at breaks
      have outsideStep : outside.step c = begin c := rfl
      simp only [lexemes, ends c breaks, outsideStep, endBefore, Option.bind_eq_bind]
      cases begin c with
      | none => rfl
      | some next =>
          rcases next with ⟨done, reader⟩
          simp only [Option.map_some, Option.bind_some]
          cases reader.lexemes rest <;> rfl

theorem lexemes_word (run more rest : List Char) (parts : ∀ c ∈ more, isIdentifierPart c = true)
    (breaks : Breaks rest) :
    (word run).lexemes (more ++ rest) =
      (outside.lexemes rest).map (.ofWord (run.reverse ++ more) :: ·) := by
  induction more generalizing run with
  | nil =>
      rw [List.nil_append, List.append_nil]
      refine lexemes_of_ends rfl ?_ breaks
      intro c isBreak
      simp [step, isIdentifierPart_eq_false_of_isBreak isBreak]
  | cons c more ih =>
      have part := parts c List.mem_cons_self
      have partsLeft := fun d inside => parts d (List.mem_cons_of_mem c inside)
      rw [List.cons_append,
        lexemes_cons_of_goesOn (word (c :: run)) _ (by simp [step, part]),
        ih (c :: run) partsLeft]
      simp

theorem lexemes_parameter (run more rest : List Char)
    (parts : ∀ c ∈ more, isIdentifierPart c = true) (nonempty : run ++ more ≠ [])
    (breaks : Breaks rest) :
    (parameter run).lexemes (more ++ rest) =
      (outside.lexemes rest).map (.parameter (run.reverse ++ more) :: ·) := by
  induction more generalizing run with
  | nil =>
      rw [List.append_nil] at nonempty
      rw [List.nil_append, List.append_nil]
      refine lexemes_of_ends (by simp [finish, nonempty]) ?_ breaks
      intro c isBreak
      simp [step, isIdentifierPart_eq_false_of_isBreak isBreak, nonempty]
  | cons c more ih =>
      have part := parts c List.mem_cons_self
      have partsLeft := fun d inside => parts d (List.mem_cons_of_mem c inside)
      rw [List.cons_append,
        lexemes_cons_of_goesOn (parameter (c :: run)) _ (by simp [step, part]),
        ih (c :: run) partsLeft (by simp)]
      simp

theorem lexemes_literal (run more rest : List Char) (plain : ∀ c ∈ more, c ≠ '\'')
    (breaks : Breaks rest) :
    (literal run).lexemes (more ++ '\'' :: rest) =
      (outside.lexemes rest).map (.literal (run.reverse ++ more) :: ·) := by
  induction more generalizing run with
  | nil =>
      have ends : (quote run).lexemes rest =
          (outside.lexemes rest).map (.literal run.reverse :: ·) := by
        refine lexemes_of_ends rfl ?_ breaks
        intro c isBreak
        have notQuote : c ≠ '\'' := by
          rintro rfl
          exact absurd isBreak (by decide)
        simp [step, notQuote]
      rw [List.nil_append, List.append_nil,
        lexemes_cons_of_goesOn (quote run) _ (by simp [step]), ends]
  | cons c more ih =>
      have notQuote := plain c List.mem_cons_self
      have plainLeft := fun d inside => plain d (List.mem_cons_of_mem c inside)
      rw [List.cons_append,
        lexemes_cons_of_goesOn (literal (c :: run)) _ (by simp [step, notQuote]),
        ih (c :: run) plainLeft]
      simp

theorem lexemes_angle {strict loose : Relation} (rest : List Char) :
    (angle strict loose).lexemes (' ' :: rest) =
      (outside.lexemes rest).map (.relation strict :: ·) := by
  have blank : outside.lexemes (' ' :: rest) = outside.lexemes rest :=
    lexemes_cons_of_goesOn .outside rest rfl
  rw [← blank]
  refine lexemes_of_ends rfl ?_ (by simp [isBreak])
  intro c isBreak
  rcases isBreak_cases isBreak with rfl | rfl | rfl | rfl <;> rfl

end Reader

@[simp]
theorem lexemes?_nil : lexemes? [] = some [] :=
  rfl

@[simp]
theorem lexemes?_blank (rest : List Char) : lexemes? (' ' :: rest) = lexemes? rest :=
  Reader.lexemes_cons_of_goesOn .outside rest rfl

@[simp]
theorem lexemes?_opening (rest : List Char) :
    lexemes? ('(' :: rest) = (lexemes? rest).map (.opening :: ·) :=
  Reader.lexemes_cons_of_completes _ rest rfl

@[simp]
theorem lexemes?_closing (rest : List Char) :
    lexemes? (')' :: rest) = (lexemes? rest).map (.closing :: ·) :=
  Reader.lexemes_cons_of_completes _ rest rfl

@[simp]
theorem lexemes?_comma (rest : List Char) :
    lexemes? (',' :: rest) = (lexemes? rest).map (.comma :: ·) :=
  Reader.lexemes_cons_of_completes _ rest rfl

theorem Reader.outside_step_of_isIdentifierStart {c : Char} (start : isIdentifierStart c = true) :
    outside.step c = some ([], word [c]) := by
  have other : ∀ d : Char, isIdentifierStart d = false → c ≠ d := by
    rintro d notStart rfl
    rw [start] at notStart
    cases notStart
  simp [step, begin, start, other ' ' rfl, other '(' rfl, other ')' rfl, other ',' rfl,
    other '=' rfl, other '<' rfl, other '>' rfl, other ':' rfl, other '\'' rfl]

theorem lexemes?_word {run rest : List Char} (identifier : isIdentifier run = true)
    (breaks : Breaks rest) :
    lexemes? (run ++ rest) = (lexemes? rest).map (.ofWord run :: ·) := by
  cases run with
  | nil => exact absurd identifier (by decide)
  | cons c run =>
      simp only [isIdentifier, Bool.and_eq_true, List.all_eq_true] at identifier
      rw [lexemes?, List.cons_append,
        Reader.lexemes_cons_of_goesOn _ _ (Reader.outside_step_of_isIdentifierStart identifier.1)]
      exact Reader.lexemes_word [c] run rest identifier.2 breaks

theorem lexemes?_parameter {name rest : List Char} (parts : ∀ c ∈ name, isIdentifierPart c = true)
    (nonempty : name ≠ []) (breaks : Breaks rest) :
    lexemes? (':' :: (name ++ rest)) = (lexemes? rest).map (.parameter name :: ·) := by
  have begins : Reader.outside.step ':' = some ([], .parameter []) := rfl
  rw [lexemes?, Reader.lexemes_cons_of_goesOn _ _ begins]
  exact Reader.lexemes_parameter [] name rest parts nonempty breaks

theorem lexemes?_literal {text rest : List Char} (plain : ∀ c ∈ text, c ≠ '\'')
    (breaks : Breaks rest) :
    lexemes? ('\'' :: (text ++ '\'' :: rest)) = (lexemes? rest).map (.literal text :: ·) := by
  have begins : Reader.outside.step '\'' = some ([], .literal []) := rfl
  rw [lexemes?, Reader.lexemes_cons_of_goesOn _ _ begins]
  exact Reader.lexemes_literal [] text rest plain breaks

theorem lexemes?_loose {angle : Char} {strict loose : Relation} (rest : List Char)
    (begins : Reader.outside.step angle = some ([], .angle strict loose)) :
    lexemes? (angle :: '=' :: ' ' :: rest) = (lexemes? rest).map (.relation loose :: ·) := by
  rw [lexemes?, Reader.lexemes_cons_of_goesOn _ _ begins,
    Reader.lexemes_cons_of_completes (.relation loose) _ rfl]
  exact congrArg _ (lexemes?_blank rest)

theorem lexemes?_relation (which : Relation) (rest : List Char) :
    lexemes? (which.symbol.toList ++ ' ' :: rest) = (lexemes? rest).map (.relation which :: ·) := by
  cases which with
  | equal =>
      refine (Reader.lexemes_cons_of_completes (.relation .equal) _ rfl).trans ?_
      exact congrArg _ (lexemes?_blank rest)
  | greater =>
      refine (Reader.lexemes_cons_of_goesOn (.angle .greater .atLeast) _ rfl).trans ?_
      exact Reader.lexemes_angle rest
  | less =>
      refine (Reader.lexemes_cons_of_goesOn (.angle .less .atMost) _ rfl).trans ?_
      exact Reader.lexemes_angle rest
  | atLeast => exact lexemes?_loose rest rfl
  | atMost => exact lexemes?_loose rest rfl
  | like =>
      refine (lexemes?_word rfl (by simp [isBreak])).trans ?_
      rw [lexemes?_blank]
      rfl

end TransactionLedger.Sql
