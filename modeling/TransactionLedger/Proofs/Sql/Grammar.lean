import TransactionLedger.Proofs.Query.FieldPath
import TransactionLedger.Proofs.Sql.Lexeme

/-!
# The grammar of conditions

How a list of lexemes is read as a condition. A test compares operands; the `AND` between the bounds
of `BETWEEN` belongs to the test. Tests bind tighter than `AND`, and `AND` tighter than `OR`; both
associate to the left, and what stands in parentheses is read on its own. The reading keeps no trace
of the parentheses. No list of lexemes has two readings.
-/

namespace TransactionLedger.Sql

open TransactionLedger.Filter Query

/-- The lexemes are an operand. -/
inductive ReadsOperand : List Lexeme → Operand → Prop
  | column (which : Column) : ReadsOperand [.word which.name.toList] (.column which)
  | placeholder (name : String) : ReadsOperand [.parameter name.toList] (.placeholder name)
  | extract {lexemes : List Lexeme} {source : Operand} (path : List Segment)
      (reads : ReadsOperand lexemes source) :
      ReadsOperand
        (.word "json_extract".toList :: .opening ::
          (lexemes ++ [.comma, .literal ('$' :: stepsText path), .closing]))
        (.extract source path)

/-- The lexemes are a list of operands with commas between them. -/
inductive ReadsChoices : List Lexeme → List Operand → Prop
  | last {lexemes : List Lexeme} {choice : Operand} (reads : ReadsOperand lexemes choice) :
      ReadsChoices lexemes [choice]
  | more {lexemes rest : List Lexeme} {choice : Operand} {choices : List Operand}
      (reads : ReadsOperand lexemes choice) (readsRest : ReadsChoices rest choices) :
      ReadsChoices (lexemes ++ .comma :: rest) (choice :: choices)

/-- The lexemes are a test of operands. -/
inductive ReadsTest : List Lexeme → Condition → Prop
  | compare {left right : List Lexeme} {lhs rhs : Operand} (relation : Relation)
      (readsLeft : ReadsOperand left lhs) (readsRight : ReadsOperand right rhs) :
      ReadsTest (left ++ .relation relation :: right) (.compare lhs relation rhs)
  | between {lexemes lowLexemes highLexemes : List Lexeme} {subject low high : Operand}
      (reads : ReadsOperand lexemes subject) (readsLow : ReadsOperand lowLexemes low)
      (readsHigh : ReadsOperand highLexemes high) :
      ReadsTest (lexemes ++ .between :: (lowLexemes ++ .conjunction :: highLexemes))
        (.between subject low high)
  | oneOf {lexemes choiceLexemes : List Lexeme} {subject : Operand} {choices : List Operand}
      (reads : ReadsOperand lexemes subject) (readsChoices : ReadsChoices choiceLexemes choices) :
      ReadsTest (lexemes ++ .oneOf :: .opening :: (choiceLexemes ++ [.closing]))
        (.oneOf subject choices)

/-- How tightly the parts of a condition are bound. -/
inductive Level
  | predicate
  | conjunction
  | disjunction
  deriving DecidableEq, Repr

/-- The lexemes are a condition whose parts are bound at least as tightly as the level says. -/
inductive ReadsCondition : Level → List Lexeme → Condition → Prop
  | test {lexemes : List Lexeme} {condition : Condition} (reads : ReadsTest lexemes condition) :
      ReadsCondition .predicate lexemes condition
  | parentheses {lexemes : List Lexeme} {condition : Condition}
      (reads : ReadsCondition .disjunction lexemes condition) :
      ReadsCondition .predicate (.opening :: (lexemes ++ [.closing])) condition
  | predicate {lexemes : List Lexeme} {condition : Condition}
      (reads : ReadsCondition .predicate lexemes condition) :
      ReadsCondition .conjunction lexemes condition
  | both {left right : List Lexeme} {lhs rhs : Condition}
      (readsLeft : ReadsCondition .conjunction left lhs)
      (readsRight : ReadsCondition .predicate right rhs) :
      ReadsCondition .conjunction (left ++ .conjunction :: right) (.both lhs rhs)
  | conjunction {lexemes : List Lexeme} {condition : Condition}
      (reads : ReadsCondition .conjunction lexemes condition) :
      ReadsCondition .disjunction lexemes condition
  | either {left right : List Lexeme} {lhs rhs : Condition}
      (readsLeft : ReadsCondition .disjunction left lhs)
      (readsRight : ReadsCondition .conjunction right rhs) :
      ReadsCondition .disjunction (left ++ .disjunction :: right) (.either lhs rhs)

/-- The text is read as the condition. -/
def Reads (text : String) (condition : Condition) : Prop :=
  ∃ lexemes, lexemes? text.toList = some lexemes ∧ ReadsCondition .disjunction lexemes condition

/-! ## No two readings -/

theorem Column.name_injective {which other : Column} (same : which.name = other.name) :
    which = other := by
  revert same
  cases which <;> cases other <;> decide

/-- An operand ends where it does whatever follows it. -/
theorem ReadsOperand.unique {first second rest otherRest : List Lexeme} {operand other : Operand}
    (reads : ReadsOperand first operand) (otherReads : ReadsOperand second other)
    (same : first ++ rest = second ++ otherRest) : operand = other ∧ rest = otherRest := by
  induction reads generalizing second rest otherRest other with
  | column which =>
      cases otherReads with
      | column another =>
          simp only [List.singleton_append, List.cons.injEq, Lexeme.word.injEq,
            String.toList_inj] at same
          exact ⟨by rw [Column.name_injective same.1], same.2⟩
      | placeholder name => simp at same
      | extract path otherReads =>
          cases which <;> exact absurd same (by simp [Column.name])
  | placeholder name =>
      cases otherReads with
      | column another => simp at same
      | placeholder another =>
          simp only [List.singleton_append, List.cons.injEq, Lexeme.parameter.injEq,
            String.toList_inj] at same
          exact ⟨by rw [same.1], same.2⟩
      | extract path otherReads => simp at same
  | extract path reads ih =>
      cases otherReads with
      | column another =>
          cases another <;> exact absurd same (by simp [Column.name])
      | placeholder another => simp at same
      | extract otherPath otherReads =>
          simp only [List.cons_append, List.append_assoc, List.nil_append, List.cons.injEq,
            true_and] at same
          rcases ih otherReads same with ⟨rfl, tails⟩
          simp only [List.cons.injEq, Lexeme.literal.injEq, true_and] at tails
          exact ⟨by rw [stepsText_injective tails.1], tails.2⟩

theorem ReadsChoices.unique {first second rest otherRest : List Lexeme}
    {choices others : List Operand} (reads : ReadsChoices first choices)
    (otherReads : ReadsChoices second others)
    (same : first ++ .closing :: rest = second ++ .closing :: otherRest) :
    choices = others ∧ rest = otherRest := by
  induction reads generalizing second others with
  | last reads =>
      cases otherReads with
      | last otherReads =>
          rcases reads.unique otherReads same with ⟨rfl, tails⟩
          exact ⟨rfl, (List.cons.inj tails).2⟩
      | more otherReads otherReadsRest =>
          rw [List.append_assoc] at same
          exact absurd (reads.unique otherReads same).2 (by simp)
  | more reads readsRest ih =>
      rw [List.append_assoc] at same
      cases otherReads with
      | last otherReads => exact absurd (reads.unique otherReads same).2 (by simp)
      | more otherReads otherReadsRest =>
          rw [List.append_assoc] at same
          rcases reads.unique otherReads same with ⟨rfl, tails⟩
          rcases ih otherReadsRest (List.cons.inj tails).2 with ⟨rfl, tails⟩
          exact ⟨rfl, tails⟩

theorem ReadsTest.unique {first second rest otherRest : List Lexeme} {test other : Condition}
    (reads : ReadsTest first test) (otherReads : ReadsTest second other)
    (same : first ++ rest = second ++ otherRest) : test = other ∧ rest = otherRest := by
  cases reads with
  | compare relation readsLeft readsRight =>
      cases otherReads with
      | compare otherRelation otherReadsLeft otherReadsRight =>
          simp only [List.append_assoc, List.cons_append] at same
          rcases readsLeft.unique otherReadsLeft same with ⟨rfl, tails⟩
          simp only [List.cons.injEq, Lexeme.relation.injEq] at tails
          rcases tails with ⟨rfl, tails⟩
          rcases readsRight.unique otherReadsRight tails with ⟨rfl, tails⟩
          exact ⟨rfl, tails⟩
      | between otherReads otherReadsLow otherReadsHigh =>
          simp only [List.append_assoc, List.cons_append] at same
          exact absurd (readsLeft.unique otherReads same).2 (by simp)
      | oneOf otherReads otherReadsChoices =>
          simp only [List.append_assoc, List.cons_append] at same
          exact absurd (readsLeft.unique otherReads same).2 (by simp)
  | between readsSubject readsLow readsHigh =>
      cases otherReads with
      | compare otherRelation otherReadsLeft otherReadsRight =>
          simp only [List.append_assoc, List.cons_append] at same
          exact absurd (readsSubject.unique otherReadsLeft same).2 (by simp)
      | between otherReads otherReadsLow otherReadsHigh =>
          simp only [List.append_assoc, List.cons_append] at same
          rcases readsSubject.unique otherReads same with ⟨rfl, tails⟩
          rcases readsLow.unique otherReadsLow (List.cons.inj tails).2 with ⟨rfl, tails⟩
          rcases readsHigh.unique otherReadsHigh (List.cons.inj tails).2 with ⟨rfl, tails⟩
          exact ⟨rfl, tails⟩
      | oneOf otherReads otherReadsChoices =>
          simp only [List.append_assoc, List.cons_append] at same
          exact absurd (readsSubject.unique otherReads same).2 (by simp)
  | oneOf readsSubject readsChoices =>
      cases otherReads with
      | compare otherRelation otherReadsLeft otherReadsRight =>
          simp only [List.append_assoc, List.cons_append] at same
          exact absurd (readsSubject.unique otherReadsLeft same).2 (by simp)
      | between otherReads otherReadsLow otherReadsHigh =>
          simp only [List.append_assoc, List.cons_append] at same
          exact absurd (readsSubject.unique otherReads same).2 (by simp)
      | oneOf otherReads otherReadsChoices =>
          simp only [List.append_assoc, List.cons_append, List.nil_append] at same
          rcases readsSubject.unique otherReads same with ⟨rfl, tails⟩
          simp only [List.cons.injEq, true_and] at tails
          rcases readsChoices.unique otherReadsChoices tails with ⟨rfl, tails⟩
          exact ⟨rfl, tails⟩

theorem ReadsOperand.ne_opening {lexemes rest otherRest : List Lexeme} {operand : Operand}
    (reads : ReadsOperand lexemes operand) : lexemes ++ rest ≠ .opening :: otherRest := by
  cases reads <;> simp

/-- A test does not start with a parenthesis. -/
theorem ReadsTest.ne_opening {lexemes rest otherRest : List Lexeme} {test : Condition}
    (reads : ReadsTest lexemes test) : lexemes ++ rest ≠ .opening :: otherRest := by
  cases reads with
  | compare relation readsLeft readsRight =>
      rw [List.append_assoc]
      exact readsLeft.ne_opening
  | between readsSubject readsLow readsHigh =>
      rw [List.append_assoc]
      exact readsSubject.ne_opening
  | oneOf readsSubject readsChoices =>
      rw [List.append_assoc]
      exact readsSubject.ne_opening

/-- Items, each behind the sign, that are joined one after the other to what stands in front. -/
inductive Continues (item : List Lexeme → Condition → Prop) (sign : Lexeme)
    (join : Condition → Condition → Condition) : Condition → List Lexeme → Condition → Prop
  | done (lhs : Condition) : Continues item sign join lhs [] lhs
  | more {lexemes rest : List Lexeme} {lhs rhs condition : Condition}
      (reads : item lexemes rhs)
      (continues : Continues item sign join (join lhs rhs) rest condition) :
      Continues item sign join lhs (sign :: (lexemes ++ rest)) condition

/-- Short lists of lexemes have one reading, and it ends in one place, if what follows them does not
go on with it. -/
def Unambiguous (bound : Nat) (item : List Lexeme → Condition → Prop)
    (ends : List Lexeme → Prop) : Prop :=
  ∀ first second rest otherRest condition other, first.length < bound →
    item first condition → item second other → first ++ rest = second ++ otherRest →
    ends rest → ends otherRest → condition = other ∧ rest = otherRest

section Continues

variable {item : List Lexeme → Condition → Prop} {sign : Lexeme}
  {join : Condition → Condition → Condition} {ends : List Lexeme → Prop}

theorem Continues.append_item {lexemes right : List Lexeme} {lhs condition rhs : Condition}
    (continues : Continues item sign join lhs lexemes condition) (reads : item right rhs) :
    Continues item sign join lhs (lexemes ++ sign :: right) (join condition rhs) := by
  induction continues with
  | done lhs =>
      have last : Continues item sign join lhs (sign :: (right ++ [])) (join lhs rhs) :=
        .more reads (.done _)
      rwa [List.append_nil] at last
  | more first continues ih =>
      rw [List.cons_append, List.append_assoc]
      exact .more first ih

theorem Continues.ends_append {lexemes rest : List Lexeme} {lhs condition : Condition}
    (continues : Continues item sign join lhs lexemes condition)
    (signEnds : ∀ rest, ends (sign :: rest)) (restEnds : ends rest) : ends (lexemes ++ rest) := by
  cases continues with
  | done => exact restEnds
  | more => exact signEnds _

theorem Continues.unique {bound : Nat} {first second rest otherRest : List Lexeme}
    {lhs condition other : Condition} (unambiguous : Unambiguous bound item ends)
    (signEnds : ∀ rest, ends (sign :: rest))
    (continues : Continues item sign join lhs first condition)
    (otherContinues : Continues item sign join lhs second other)
    (short : first.length < bound) (same : first ++ rest = second ++ otherRest)
    (restEnds : ends rest ∧ rest.head? ≠ some sign)
    (otherRestEnds : ends otherRest ∧ otherRest.head? ≠ some sign) :
    condition = other ∧ rest = otherRest := by
  induction continues generalizing second with
  | done lhs =>
      cases otherContinues with
      | done => exact ⟨rfl, same⟩
      | more =>
          rw [List.nil_append] at same
          rw [same] at restEnds
          exact absurd rfl restEnds.2
  | more reads continues ih =>
      cases otherContinues with
      | done =>
          rw [List.nil_append] at same
          rw [← same] at otherRestEnds
          exact absurd rfl otherRestEnds.2
      | more otherReads otherContinues =>
          simp only [List.length_cons, List.length_append] at short
          simp only [List.cons_append, List.append_assoc, List.cons.injEq, true_and] at same
          rcases unambiguous _ _ _ _ _ _ (by omega) reads otherReads same
            (continues.ends_append signEnds restEnds.1)
            (otherContinues.ends_append signEnds otherRestEnds.1) with ⟨rfl, tails⟩
          exact ih otherContinues (by omega) tails

/-- A row of items with signs between them is as unambiguous as the items. -/
theorem Unambiguous.continues {bound : Nat} {row : List Lexeme → Condition → Prop}
    (unambiguous : Unambiguous bound item ends) (signEnds : ∀ rest, ends (sign :: rest))
    (split : ∀ lexemes condition, row lexemes condition → ∃ first rest lhs,
      item first lhs ∧ Continues item sign join lhs rest condition ∧ lexemes = first ++ rest) :
    Unambiguous bound row fun rest => ends rest ∧ rest.head? ≠ some sign := by
  intro first second rest otherRest condition other short reads otherReads same restEnds
    otherRestEnds
  rcases split _ _ reads with ⟨start, more, lhs, readsStart, continues, rfl⟩
  rcases split _ _ otherReads with ⟨otherStart, otherMore, _, otherReadsStart, otherContinues, rfl⟩
  simp only [List.length_append] at short
  simp only [List.append_assoc] at same
  rcases unambiguous _ _ _ _ _ _ (by omega) readsStart otherReadsStart same
    (continues.ends_append signEnds restEnds.1)
    (otherContinues.ends_append signEnds otherRestEnds.1) with ⟨rfl, tails⟩
  exact continues.unique unambiguous signEnds otherContinues (by omega) tails restEnds
    otherRestEnds

end Continues

namespace ReadsCondition

theorem ne_nil {level : Level} {lexemes : List Lexeme} {condition : Condition}
    (reads : ReadsCondition level lexemes condition) : lexemes ≠ [] := by
  induction reads with
  | test reads => cases reads <;> simp
  | predicate reads ih => exact ih
  | conjunction reads ih => exact ih
  | _ => simp

theorem split_conjunction {lexemes : List Lexeme} {condition : Condition}
    (reads : ReadsCondition .conjunction lexemes condition) :
    ∃ first rest lhs, ReadsCondition .predicate first lhs ∧
      Continues (ReadsCondition .predicate) .conjunction .both lhs rest condition ∧
      lexemes = first ++ rest := by
  cases reads with
  | predicate reads => exact ⟨lexemes, [], condition, reads, .done condition, by simp⟩
  | both readsLeft readsRight =>
      rcases split_conjunction readsLeft with ⟨first, rest, lhs, readsFirst, continues, rfl⟩
      exact ⟨first, _, lhs, readsFirst, continues.append_item readsRight, by simp⟩

theorem split_disjunction {lexemes : List Lexeme} {condition : Condition}
    (reads : ReadsCondition .disjunction lexemes condition) :
    ∃ first rest lhs, ReadsCondition .conjunction first lhs ∧
      Continues (ReadsCondition .conjunction) .disjunction .either lhs rest condition ∧
      lexemes = first ++ rest := by
  cases reads with
  | conjunction reads => exact ⟨lexemes, [], condition, reads, .done condition, by simp⟩
  | either readsLeft readsRight =>
      rcases split_disjunction readsLeft with ⟨first, rest, lhs, readsFirst, continues, rfl⟩
      exact ⟨first, _, lhs, readsFirst, continues.append_item readsRight, by simp⟩

/-- What can follow a disjunction without going on with it. -/
def EndsDisjunction (rest : List Lexeme) : Prop :=
  (True ∧ rest.head? ≠ some .conjunction) ∧ rest.head? ≠ some .disjunction

theorem unambiguous_disjunction {bound : Nat}
    (unambiguous : Unambiguous bound (ReadsCondition .predicate) fun _ => True) :
    Unambiguous bound (ReadsCondition .disjunction) EndsDisjunction := by
  have conjunctions := unambiguous.continues (fun _ => trivial) fun _ _ => split_conjunction
  exact conjunctions.continues (by simp) fun _ _ => split_disjunction

/-- By induction on the length: what stands in parentheses is shorter. -/
theorem unambiguous_predicate (bound : Nat) :
    Unambiguous bound (ReadsCondition .predicate) fun _ => True := by
  induction bound with
  | zero => exact fun _ _ _ _ _ _ short => absurd short (Nat.not_lt_zero _)
  | succ bound ih =>
      intro first second rest otherRest condition other short reads otherReads same _ _
      cases reads with
      | test reads =>
          cases otherReads with
          | test otherReads => exact reads.unique otherReads same
          | parentheses otherReads => exact absurd same reads.ne_opening
      | parentheses reads =>
          cases otherReads with
          | test otherReads => exact absurd same.symm otherReads.ne_opening
          | parentheses otherReads =>
              simp only [List.length_cons, List.length_append, List.length_nil] at short
              simp only [List.cons_append, List.append_assoc, List.nil_append, List.cons.injEq,
                true_and] at same
              rcases unambiguous_disjunction ih _ _ _ _ _ _ (by omega) reads otherReads same
                (by simp [EndsDisjunction]) (by simp [EndsDisjunction]) with ⟨rfl, tails⟩
              exact ⟨rfl, (List.cons.inj tails).2⟩

theorem unique {lexemes : List Lexeme} {condition other : Condition}
    (reads : ReadsCondition .disjunction lexemes condition)
    (otherReads : ReadsCondition .disjunction lexemes other) : condition = other :=
  (unambiguous_disjunction (unambiguous_predicate (lexemes.length + 1)) _ _ [] [] _ _
    (Nat.lt_succ_self _) reads otherReads rfl (by simp [EndsDisjunction])
    (by simp [EndsDisjunction])).1

end ReadsCondition

/-- A text has at most one reading. -/
theorem Reads.unique {text : String} {condition other : Condition} (reads : Reads text condition)
    (otherReads : Reads text other) : condition = other := by
  rcases reads with ⟨lexemes, cut, reads⟩
  rcases otherReads with ⟨otherLexemes, otherCut, otherReads⟩
  rw [cut] at otherCut
  rcases Option.some.inj otherCut with rfl
  exact reads.unique otherReads

end TransactionLedger.Sql
