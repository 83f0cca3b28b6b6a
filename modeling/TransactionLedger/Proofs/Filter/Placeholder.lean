import TransactionLedger.Proofs.Query.FieldPath
import TransactionLedger.Proofs.Text.Digits
import TransactionLedger.Sql.Statement

/-!
# Placeholders in the text of a condition

A placeholder is a colon with the longest run of identifier characters behind it. In the text of a
condition these are the names of its placeholders from left to right: nothing else in the text holds
a colon, and behind a name stands a blank, a comma, a parenthesis or nothing.
-/

namespace TransactionLedger.Filter

open Query

/-- A name that can stand behind a colon. -/
def IsPlaceholderName (name : String) : Prop :=
  name.toList ≠ [] ∧ ∀ c ∈ name.toList, isIdentifierPart c = true

/-- The names behind the colons of a text, from left to right. -/
def placeholderTokens : List Char → List String
  | [] => []
  | c :: rest =>
    if c = ':' then String.ofList (rest.takeWhile isIdentifierPart) :: placeholderTokens rest
    else placeholderTokens rest

/-- A name in front of the text ends there. -/
def EndsName (text : List Char) : Prop :=
  ∀ c ∈ text.head?, isIdentifierPart c = false

@[simp]
theorem endsName_nil : EndsName [] := by
  simp [EndsName]

@[simp]
theorem endsName_cons {c : Char} {text : List Char} :
    EndsName (c :: text) ↔ isIdentifierPart c = false := by
  simp [EndsName]

theorem ne_colon_of_isIdentifierPart {c : Char} (part : isIdentifierPart c = true) : c ≠ ':' := by
  rintro rfl
  exact absurd part (by decide)

theorem ne_colon_of_isPathChar {c : Char} (inside : isPathChar c = true) : c ≠ ':' := by
  rintro rfl
  exact absurd inside (by decide)

theorem takeWhile_name {name rest : List Char} (parts : ∀ c ∈ name, isIdentifierPart c = true)
    (ends : EndsName rest) : (name ++ rest).takeWhile isIdentifierPart = name := by
  rw [List.takeWhile_append_of_pos parts]
  cases rest with
  | nil => simp
  | cons c rest =>
      rw [endsName_cons] at ends
      simp [List.takeWhile, ends]

theorem placeholderTokens_cons {c : Char} (noColon : c ≠ ':') (rest : List Char) :
    placeholderTokens (c :: rest) = placeholderTokens rest := by
  rw [placeholderTokens, if_neg noColon]

/-- What has no colon has no placeholder. -/
theorem placeholderTokens_append {plain : List Char} (noColon : ∀ c ∈ plain, c ≠ ':')
    (rest : List Char) : placeholderTokens (plain ++ rest) = placeholderTokens rest := by
  induction plain with
  | nil => rfl
  | cons c plain ih =>
      rw [List.cons_append, placeholderTokens_cons (noColon c List.mem_cons_self)]
      exact ih fun d inside => noColon d (List.mem_cons_of_mem c inside)

theorem placeholderTokens_keyword {keyword : List Char} (noColon : ∀ c ∈ keyword, c ≠ ':')
    (rest : List Char) :
    placeholderTokens (' ' :: (keyword ++ ' ' :: rest)) = placeholderTokens rest := by
  rw [placeholderTokens_cons (by decide), placeholderTokens_append noColon,
    placeholderTokens_cons (by decide)]

/-! ## Texts as characters -/

section Characters

variable (rest : List Char)

-- By computation: the equations of `Operand.text` are slow to generate.
theorem Operand.text_placeholder (name : String) : (placeholder name).text = ":" ++ name :=
  rfl

theorem Operand.text_extract (source : Operand) (path : List Segment) :
    (extract source path).text =
      "json_extract(" ++ source.text ++ ", '$" ++ String.ofList (stepsText path) ++ "')" :=
  rfl

theorem Operand.toList_placeholder_append (name : String) :
    (placeholder name).text.toList ++ rest = ':' :: (name.toList ++ rest) := by
  simp [text_placeholder]

theorem Operand.toList_extract_append (source : Operand) (path : List Segment) :
    (extract source path).text.toList ++ rest =
      "json_extract".toList ++ '(' :: (source.text.toList ++ ',' :: ' ' :: '\'' ::
        ('$' :: stepsText path ++ '\'' :: ')' :: rest)) := by
  simp [text_extract]

theorem Operand.toList_choices_append (first second : Operand) (others : List Operand) :
    (", ".intercalate ((first :: second :: others).map text)).toList ++ rest =
      first.text.toList ++ ',' :: ' ' ::
        ((", ".intercalate ((second :: others).map text)).toList ++ rest) := by
  simp

theorem Condition.toList_compare_append (lhs : Operand) (relation : Relation) (rhs : Operand) :
    (compare lhs relation rhs).text.toList ++ rest =
      lhs.text.toList ++ ' ' :: (relation.symbol.toList ++ ' ' :: (rhs.text.toList ++ rest)) := by
  simp [text]

theorem Condition.toList_between_append (subject low high : Operand) :
    (between subject low high).text.toList ++ rest =
      subject.text.toList ++ ' ' :: ("BETWEEN".toList ++ ' ' :: (low.text.toList ++
        ' ' :: ("AND".toList ++ ' ' :: (high.text.toList ++ rest)))) := by
  simp [text]

theorem Condition.toList_oneOf_append (subject : Operand) (choices : List Operand) :
    (oneOf subject choices).text.toList ++ rest =
      subject.text.toList ++ ' ' :: ("IN".toList ++ ' ' :: '(' ::
        ((", ".intercalate (choices.map Operand.text)).toList ++ ')' :: rest)) := by
  simp [text, -String.toList_intercalate]

theorem Condition.toList_both_append (lhs rhs : Condition) :
    (both lhs rhs).text.toList ++ rest =
      lhs.text.toList ++ ' ' :: ("AND".toList ++ ' ' :: (rhs.text.toList ++ rest)) := by
  simp [text]

theorem Condition.toList_either_append (lhs rhs : Condition) :
    (either lhs rhs).text.toList ++ rest =
      lhs.text.toList ++ ' ' :: ("OR".toList ++ ' ' :: (rhs.text.toList ++ rest)) := by
  simp [text]

theorem Condition.toList_group_append (inner : Condition) :
    (group inner).text.toList ++ rest = '(' :: (inner.text.toList ++ ')' :: rest) := by
  simp [text]

end Characters

/-! ## The placeholders of a text -/

namespace Condition

/-- The placeholders of a condition from left to right. -/
def placeholders : Condition → List String
  | compare lhs _ rhs => lhs.placeholders ++ rhs.placeholders
  | between subject low high => subject.placeholders ++ low.placeholders ++ high.placeholders
  | oneOf subject choices => subject.placeholders ++ choices.flatMap Operand.placeholders
  | both lhs rhs => lhs.placeholders ++ rhs.placeholders
  | either lhs rhs => lhs.placeholders ++ rhs.placeholders
  | group inner => inner.placeholders

end Condition

theorem placeholderTokens_operand (operand : Operand)
    (named : ∀ name ∈ operand.placeholders, IsPlaceholderName name) {rest : List Char}
    (ends : EndsName rest) :
    placeholderTokens (operand.text.toList ++ rest) =
      operand.placeholders ++ placeholderTokens rest := by
  induction operand generalizing rest with
  | column which =>
      have noColon : ∀ c ∈ which.name.toList, c ≠ ':' := by
        cases which <;> simp [Column.name]
      exact placeholderTokens_append noColon rest
  | placeholder name =>
      have parts := (named name (by simp [Operand.placeholders])).2
      have noColon := fun c inside => ne_colon_of_isIdentifierPart (parts c inside)
      rw [Operand.toList_placeholder_append, placeholderTokens, if_pos rfl,
        takeWhile_name parts ends, placeholderTokens_append noColon]
      simp [Operand.placeholders]
  | extract source path ih =>
      have pathPlain : ∀ c ∈ '$' :: stepsText path, c ≠ ':' := by
        intro c inside
        rcases List.mem_cons.mp inside with rfl | inside
        · decide
        · exact ne_colon_of_isPathChar (isPathChar_of_mem_stepsText inside)
      rw [Operand.toList_extract_append, placeholderTokens_append (by simp),
        placeholderTokens_cons (by decide), ih named (by simp; decide),
        placeholderTokens_cons (by decide), placeholderTokens_cons (by decide),
        placeholderTokens_cons (by decide), placeholderTokens_append pathPlain,
        placeholderTokens_cons (by decide), placeholderTokens_cons (by decide)]
      rfl

theorem placeholderTokens_choices (choices : List Operand)
    (named : ∀ name ∈ choices.flatMap Operand.placeholders, IsPlaceholderName name)
    {rest : List Char} (ends : EndsName rest) :
    placeholderTokens ((", ".intercalate (choices.map Operand.text)).toList ++ rest) =
      choices.flatMap Operand.placeholders ++ placeholderTokens rest := by
  induction choices with
  | nil => simp
  | cons first others ih =>
      simp only [List.flatMap_cons, List.forall_mem_append] at named
      cases others with
      | nil =>
          rw [List.map_singleton, String.intercalate_singleton, List.flatMap_singleton]
          exact placeholderTokens_operand first named.1 ends
      | cons second others =>
          rw [Operand.toList_choices_append,
            placeholderTokens_operand first named.1 (by simp; decide),
            placeholderTokens_cons (by decide), placeholderTokens_cons (by decide), ih named.2]
          simp only [List.flatMap_cons, List.append_assoc]

theorem placeholderTokens_condition (condition : Condition)
    (named : ∀ name ∈ condition.placeholders, IsPlaceholderName name) {rest : List Char}
    (ends : EndsName rest) :
    placeholderTokens (condition.text.toList ++ rest) =
      condition.placeholders ++ placeholderTokens rest := by
  induction condition generalizing rest with
  | compare lhs relation rhs =>
      simp only [Condition.placeholders, List.forall_mem_append] at named
      have noColon : ∀ c ∈ relation.symbol.toList, c ≠ ':' := by
        cases relation <;> simp [Relation.symbol]
      rw [Condition.toList_compare_append,
        placeholderTokens_operand lhs named.1 (by simp; decide),
        placeholderTokens_keyword noColon, placeholderTokens_operand rhs named.2 ends,
        Condition.placeholders, List.append_assoc]
  | between subject low high =>
      simp only [Condition.placeholders, List.forall_mem_append] at named
      rw [Condition.toList_between_append,
        placeholderTokens_operand subject named.1.1 (by simp; decide),
        placeholderTokens_keyword (by simp),
        placeholderTokens_operand low named.1.2 (by simp; decide),
        placeholderTokens_keyword (by simp), placeholderTokens_operand high named.2 ends,
        Condition.placeholders, List.append_assoc, List.append_assoc]
  | oneOf subject choices =>
      simp only [Condition.placeholders, List.forall_mem_append] at named
      rw [Condition.toList_oneOf_append,
        placeholderTokens_operand subject named.1 (by simp; decide),
        placeholderTokens_keyword (by simp), placeholderTokens_cons (by decide),
        placeholderTokens_choices choices named.2 (by simp; decide),
        placeholderTokens_cons (by decide), Condition.placeholders, List.append_assoc]
  | both lhs rhs ihLeft ihRight =>
      simp only [Condition.placeholders, List.forall_mem_append] at named
      rw [Condition.toList_both_append, ihLeft named.1 (by simp; decide),
        placeholderTokens_keyword (by simp), ihRight named.2 ends, Condition.placeholders,
        List.append_assoc]
  | either lhs rhs ihLeft ihRight =>
      simp only [Condition.placeholders, List.forall_mem_append] at named
      rw [Condition.toList_either_append, ihLeft named.1 (by simp; decide),
        placeholderTokens_keyword (by simp), ihRight named.2 ends, Condition.placeholders,
        List.append_assoc]
  | group inner ih =>
      rw [Condition.toList_group_append, placeholderTokens_cons (by decide),
        ih named (by simp; decide), placeholderTokens_cons (by decide)]
      rfl

/-- The placeholders in the text of a condition are those of the condition. -/
theorem placeholderTokens_text (condition : Condition)
    (named : ∀ name ∈ condition.placeholders, IsPlaceholderName name) :
    placeholderTokens condition.text.toList = condition.placeholders := by
  have scanned := placeholderTokens_condition condition named endsName_nil
  rwa [List.append_nil, placeholderTokens, List.append_nil] at scanned

end TransactionLedger.Filter
