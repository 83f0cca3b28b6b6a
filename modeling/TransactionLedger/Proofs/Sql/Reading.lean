import TransactionLedger.Proofs.Filter.Placeholder
import TransactionLedger.Proofs.Sql.Grammar

/-!
# Reading the text of a condition

Where parentheses stand wherever the grammar asks for them, the text of a condition is read as the
condition without its groups.
-/

namespace TransactionLedger

open Query Sql

namespace Filter

namespace Operand

/-- The operand as lexemes. -/
def lexemes : Operand → List Lexeme
  | column which => [.word which.name.toList]
  | placeholder name => [.parameter name.toList]
  | extract source path =>
    .word "json_extract".toList :: .opening ::
      (source.lexemes ++ [.comma, .literal ('$' :: stepsText path), .closing])

/-- The lexemes of some operands, with commas between them. -/
def choiceLexemes : List Operand → List Lexeme
  | [] => []
  | [last] => last.lexemes
  | first :: second :: rest => first.lexemes ++ .comma :: choiceLexemes (second :: rest)

theorem reads_lexemes (operand : Operand) : ReadsOperand operand.lexemes operand := by
  induction operand with
  | column which => exact .column which
  | placeholder name => exact .placeholder name
  | extract source path ih => exact .extract path ih

theorem reads_choiceLexemes {choices : List Operand} (nonempty : choices ≠ []) :
    ReadsChoices (choiceLexemes choices) choices := by
  induction choices with
  | nil => exact absurd rfl nonempty
  | cons first rest ih =>
      cases rest with
      | nil => exact .last first.reads_lexemes
      | cons second rest => exact .more first.reads_lexemes (ih (by simp))

end Operand

namespace Condition

/-- The condition without its groups. -/
def ungrouped : Condition → Condition
  | both lhs rhs => both lhs.ungrouped rhs.ungrouped
  | either lhs rhs => either lhs.ungrouped rhs.ungrouped
  | group inner => inner.ungrouped
  | test => test

/-- The condition can stand where its parts must be bound as tightly as the level says. -/
def WellGrouped : Condition → Level → Prop
  | compare _ _ _, _ => True
  | between _ _ _, _ => True
  | oneOf _ choices, _ => choices ≠ []
  | both _ _, .predicate => False
  | both lhs rhs, _ => lhs.WellGrouped .conjunction ∧ rhs.WellGrouped .predicate
  | either lhs rhs, .disjunction => lhs.WellGrouped .disjunction ∧ rhs.WellGrouped .conjunction
  | either _ _, _ => False
  | group inner, _ => inner.WellGrouped .disjunction

theorem WellGrouped.conjunction_of_predicate {condition : Condition}
    (grouped : condition.WellGrouped .predicate) : condition.WellGrouped .conjunction := by
  cases condition with
  | both lhs rhs => exact absurd grouped id
  | either lhs rhs => exact absurd grouped id
  | _ => exact grouped

theorem WellGrouped.disjunction_of_conjunction {condition : Condition}
    (grouped : condition.WellGrouped .conjunction) : condition.WellGrouped .disjunction := by
  cases condition with
  | either lhs rhs => exact absurd grouped id
  | _ => exact grouped

theorem WellGrouped.sides_both {lhs rhs : Condition} {level : Level}
    (grouped : (both lhs rhs).WellGrouped level) :
    level ≠ .predicate ∧ lhs.WellGrouped .conjunction ∧ rhs.WellGrouped .predicate := by
  cases level with
  | predicate => exact absurd grouped id
  | conjunction => exact ⟨by simp, grouped⟩
  | disjunction => exact ⟨by simp, grouped⟩

theorem WellGrouped.sides_either {lhs rhs : Condition} {level : Level}
    (grouped : (either lhs rhs).WellGrouped level) :
    level = .disjunction ∧ lhs.WellGrouped .disjunction ∧ rhs.WellGrouped .conjunction := by
  cases level with
  | predicate => exact absurd grouped id
  | conjunction => exact absurd grouped id
  | disjunction => exact ⟨rfl, grouped⟩

/-- The condition as lexemes. -/
def lexemes : Condition → List Lexeme
  | compare lhs relation rhs => lhs.lexemes ++ .relation relation :: rhs.lexemes
  | between subject low high =>
    subject.lexemes ++ .between :: (low.lexemes ++ .conjunction :: high.lexemes)
  | oneOf subject choices =>
    subject.lexemes ++ .oneOf :: .opening :: (Operand.choiceLexemes choices ++ [.closing])
  | both lhs rhs => lhs.lexemes ++ .conjunction :: rhs.lexemes
  | either lhs rhs => lhs.lexemes ++ .disjunction :: rhs.lexemes
  | group inner => .opening :: (inner.lexemes ++ [.closing])

end Condition

end Filter

namespace Sql

open TransactionLedger.Filter

namespace ReadsCondition

theorem of_predicate {lexemes : List Lexeme} {condition : Condition} (level : Level)
    (reads : ReadsCondition .predicate lexemes condition) :
    ReadsCondition level lexemes condition := by
  cases level with
  | predicate => exact reads
  | conjunction => exact .predicate reads
  | disjunction => exact .conjunction (.predicate reads)

end ReadsCondition

/-! ## Cutting the text -/

theorem lexemes?_keyword {keyword : List Char} (lexeme : Lexeme) (rest : List Char)
    (identifier : isIdentifier keyword = true) (means : Lexeme.ofWord keyword = lexeme) :
    lexemes? (' ' :: (keyword ++ ' ' :: rest)) = (lexemes? rest).map (lexeme :: ·) := by
  rw [lexemes?_blank, lexemes?_word identifier (by simp [isBreak]), means, lexemes?_blank]

theorem Column.isIdentifier_name (which : Column) : isIdentifier which.name.toList = true := by
  cases which <;> decide

theorem Column.ofWord_name (which : Column) :
    Lexeme.ofWord which.name.toList = .word which.name.toList := by
  cases which <;> decide

theorem ne_quote_of_isPathChar {c : Char} (inside : isPathChar c = true) : c ≠ '\'' := by
  rintro rfl
  exact absurd inside (by decide)

theorem lexemes?_operand (operand : Operand)
    (named : ∀ name ∈ operand.placeholders, IsPlaceholderName name) {rest : List Char}
    (breaks : Breaks rest) :
    lexemes? (operand.text.toList ++ rest) = (lexemes? rest).map (operand.lexemes ++ ·) := by
  induction operand generalizing rest with
  | column which =>
      have word := lexemes?_word (Column.isIdentifier_name which) breaks
      rwa [Column.ofWord_name which] at word
  | placeholder name =>
      rcases named name (by simp [Operand.placeholders]) with ⟨nonempty, parts⟩
      rw [Operand.toList_placeholder_append, lexemes?_parameter parts nonempty breaks]
      rfl
  | extract source path ih =>
      have plain : ∀ c ∈ '$' :: stepsText path, c ≠ '\'' := by
        intro c inside
        rcases List.mem_cons.mp inside with rfl | inside
        · decide
        · exact ne_quote_of_isPathChar (isPathChar_of_mem_stepsText inside)
      rw [Operand.toList_extract_append, lexemes?_word (by decide) (by simp [isBreak]),
        lexemes?_opening, ih named (by simp [isBreak]), lexemes?_comma, lexemes?_blank,
        lexemes?_literal plain (by simp [isBreak]), lexemes?_closing]
      have means : Lexeme.ofWord "json_extract".toList = .word "json_extract".toList := by decide
      rw [means]
      simp [Operand.lexemes, Function.comp_def]

theorem lexemes?_choices {choices : List Operand} (nonempty : choices ≠ [])
    (named : ∀ name ∈ choices.flatMap Operand.placeholders, IsPlaceholderName name)
    {rest : List Char} (breaks : Breaks rest) :
    lexemes? ((", ".intercalate (choices.map Operand.text)).toList ++ rest) =
      (lexemes? rest).map (Operand.choiceLexemes choices ++ ·) := by
  induction choices with
  | nil => exact absurd rfl nonempty
  | cons first others ih =>
      simp only [List.flatMap_cons, List.forall_mem_append] at named
      cases others with
      | nil =>
          rw [List.map_singleton, String.intercalate_singleton]
          exact lexemes?_operand first named.1 breaks
      | cons second others =>
          rw [Operand.toList_choices_append, lexemes?_operand first named.1 (by simp [isBreak]),
            lexemes?_comma, lexemes?_blank, ih (by simp) named.2]
          simp [Operand.choiceLexemes, Function.comp_def]

theorem lexemes?_condition (condition : Condition) {level : Level}
    (grouped : condition.WellGrouped level)
    (named : ∀ name ∈ condition.placeholders, IsPlaceholderName name) {rest : List Char}
    (breaks : Breaks rest) :
    lexemes? (condition.text.toList ++ rest) = (lexemes? rest).map (condition.lexemes ++ ·) := by
  induction condition generalizing level rest with
  | compare lhs relation rhs =>
      simp only [Condition.placeholders, List.forall_mem_append] at named
      rw [Condition.toList_compare_append, lexemes?_operand lhs named.1 (by simp [isBreak]),
        lexemes?_blank, lexemes?_relation, lexemes?_operand rhs named.2 breaks]
      simp [Condition.lexemes, Function.comp_def]
  | between subject low high =>
      simp only [Condition.placeholders, List.forall_mem_append] at named
      rw [Condition.toList_between_append, lexemes?_operand subject named.1.1 (by simp [isBreak]),
        lexemes?_keyword .between _ (by decide) (by decide),
        lexemes?_operand low named.1.2 (by simp [isBreak]),
        lexemes?_keyword .conjunction _ (by decide) (by decide),
        lexemes?_operand high named.2 breaks]
      simp [Condition.lexemes, Function.comp_def]
  | oneOf subject choices =>
      simp only [Condition.placeholders, List.forall_mem_append] at named
      rw [Condition.toList_oneOf_append, lexemes?_operand subject named.1 (by simp [isBreak]),
        lexemes?_keyword .oneOf _ (by decide) (by decide), lexemes?_opening,
        lexemes?_choices grouped named.2 (by simp [isBreak]), lexemes?_closing]
      simp [Condition.lexemes, Function.comp_def]
  | both lhs rhs ihLeft ihRight =>
      simp only [Condition.placeholders, List.forall_mem_append] at named
      rcases grouped.sides_both with ⟨-, groupedLeft, groupedRight⟩
      rw [Condition.toList_both_append, ihLeft groupedLeft named.1 (by simp [isBreak]),
        lexemes?_keyword .conjunction _ (by decide) (by decide),
        ihRight groupedRight named.2 breaks]
      simp [Condition.lexemes, Function.comp_def]
  | either lhs rhs ihLeft ihRight =>
      simp only [Condition.placeholders, List.forall_mem_append] at named
      rcases grouped.sides_either with ⟨rfl, groupedLeft, groupedRight⟩
      rw [Condition.toList_either_append, ihLeft groupedLeft named.1 (by simp [isBreak]),
        lexemes?_keyword .disjunction _ (by decide) (by decide),
        ihRight groupedRight named.2 breaks]
      simp [Condition.lexemes, Function.comp_def]
  | group inner ih =>
      rw [Condition.toList_group_append, lexemes?_opening, ih grouped named (by simp [isBreak]),
        lexemes?_closing]
      simp [Condition.lexemes, Function.comp_def]

/-! ## Reading the lexemes -/

theorem readsCondition_lexemes {condition : Condition} {level : Level}
    (grouped : condition.WellGrouped level) :
    ReadsCondition level condition.lexemes condition.ungrouped := by
  induction condition generalizing level with
  | compare lhs relation rhs =>
      exact .of_predicate level (.test (.compare relation lhs.reads_lexemes rhs.reads_lexemes))
  | between subject low high =>
      exact .of_predicate level
        (.test (.between subject.reads_lexemes low.reads_lexemes high.reads_lexemes))
  | oneOf subject choices =>
      exact .of_predicate level
        (.test (.oneOf subject.reads_lexemes (Operand.reads_choiceLexemes grouped)))
  | both lhs rhs ihLeft ihRight =>
      rcases grouped.sides_both with ⟨notPredicate, groupedLeft, groupedRight⟩
      have reads := ReadsCondition.both (ihLeft groupedLeft) (ihRight groupedRight)
      cases level with
      | predicate => exact absurd rfl notPredicate
      | conjunction => exact reads
      | disjunction => exact .conjunction reads
  | either lhs rhs ihLeft ihRight =>
      rcases grouped.sides_either with ⟨rfl, groupedLeft, groupedRight⟩
      exact .either (ihLeft groupedLeft) (ihRight groupedRight)
  | group inner ih => exact .of_predicate level (.parentheses (ih grouped))

/-- The text of a well-grouped condition has one reading, the condition without its groups. -/
theorem reads_text_iff {condition reading : Condition}
    (grouped : condition.WellGrouped .disjunction)
    (named : ∀ name ∈ condition.placeholders, IsPlaceholderName name) :
    Reads condition.text reading ↔ reading = condition.ungrouped := by
  have cut := lexemes?_condition condition grouped named breaks_nil
  simp only [List.append_nil, lexemes?_nil, Option.map_some] at cut
  have reads : Reads condition.text condition.ungrouped :=
    ⟨condition.lexemes, cut, readsCondition_lexemes grouped⟩
  constructor
  · intro other
    exact other.unique reads
  · rintro rfl
    exact reads

end Sql

end TransactionLedger
