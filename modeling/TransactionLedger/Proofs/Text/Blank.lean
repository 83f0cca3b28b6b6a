import Mathlib.Data.List.TakeWhile
import TransactionLedger.Proofs.Text.Digits
import TransactionLedger.Text.Blank

/-!
# Cutting blanks off

A text is what is left of it between blanks. What starts and ends with a visible character is left
of it with any blanks around.
-/

namespace TransactionLedger.Text

theorem isBlank_of_isDigit {c : Char} (digit : isDigit c = true) : isBlank c = false := by
  rw [isDigit_iff] at digit
  simp only [isBlank, Bool.or_eq_false_iff, Bool.and_eq_false_iff, decide_eq_false_iff_not,
    beq_eq_false_iff_ne]
  omega

/-- Only blanks are cut off. -/
theorem exists_trim (text : List Char) :
    ∃ before after, text = before ++ trim text ++ after ∧ (∀ c ∈ before, isBlank c = true) ∧
      ∀ c ∈ after, isBlank c = true := by
  have blanks {c : Char} {text : List Char} (inside : c ∈ text.takeWhile isBlank) :
      isBlank c = true :=
    List.mem_takeWhile_imp inside
  refine ⟨text.takeWhile isBlank, ((trimLeft text).reverse.takeWhile isBlank).reverse, ?_,
    fun c => blanks, fun c inside => blanks (List.mem_reverse.mp inside)⟩
  rw [trim, trimRight, List.append_assoc, ← List.reverse_append, List.takeWhile_append_dropWhile,
    List.reverse_reverse, trimLeft, List.takeWhile_append_dropWhile]

theorem trimLeft_append {blanks text : List Char} (blank : ∀ c ∈ blanks, isBlank c = true)
    (starts : trimLeft text = text) : trimLeft (blanks ++ text) = text := by
  rw [trimLeft, List.dropWhile_append_of_pos blank]
  exact starts

theorem trimRight_append {text blanks : List Char} (blank : ∀ c ∈ blanks, isBlank c = true)
    (ends : trimRight text = text) : trimRight (text ++ blanks) = text := by
  have reversed : ∀ c ∈ blanks.reverse, isBlank c = true := fun c inside =>
    blank c (List.mem_reverse.mp inside)
  rw [trimRight, List.reverse_append, List.dropWhile_append_of_pos reversed]
  exact ends

end TransactionLedger.Text
