import Mathlib.Algebra.Group.Nat.Defs
import Mathlib.Data.List.Induction
import TransactionLedger.Text.Digits

/-!
# Writing and reading decimal digits

What is written in decimal consists of digits and reads back as the number, also with zeros in
front of it. So different numbers have different texts, and texts of one width are in the order of
their numbers.
-/

namespace TransactionLedger.Text

theorem isDigit_eq (c : Char) : isDigit c = c.isDigit :=
  rfl

theorem isDigit_iff {c : Char} : isDigit c = true ↔ 48 ≤ c.toNat ∧ c.toNat ≤ 57 := by
  simp only [isDigit, Bool.and_eq_true, decide_eq_true_eq]
  exact Iff.rfl

theorem naturalOf_eq (digits : List Char) : naturalOf digits = Nat.ofDigitChars 10 digits 0 :=
  rfl

theorem isDigit_of_mem_decimal {n : Nat} {c : Char} (inside : c ∈ decimal n) :
    isDigit c = true := by
  rw [isDigit_eq]
  exact Nat.isDigit_of_mem_toDigits (by omega) (by omega) inside

@[simp]
theorem decimal_ne_nil (n : Nat) : decimal n ≠ [] :=
  Nat.toDigits_ne_nil

@[simp]
theorem naturalOf_decimal (n : Nat) : naturalOf (decimal n) = n := by
  rw [naturalOf_eq, decimal]
  exact Nat.ofDigitChars_toDigits (by omega) (by omega)

theorem decimal_injective {n m : Nat} (same : decimal n = decimal m) : n = m := by
  rw [← naturalOf_decimal n, same, naturalOf_decimal]

/-- Only zero starts with a zero. -/
theorem decimal_head (n : Nat) :
    decimal n = ['0'] ∨ ∃ c rest, decimal n = c :: rest ∧ isDigit c = true ∧ c ≠ '0' := by
  induction n using Nat.strongRecOn with
  | ind n ih =>
      rw [decimal, Nat.toDigits_eq_if (by omega)]
      split
      · rename_i small
        by_cases zero : n = 0
        · left
          simp [zero]
        · right
          refine ⟨n.digitChar, [], rfl, ?_, by simpa using zero⟩
          simpa [isDigit_eq] using small
      · rename_i large
        right
        rcases ih (n / 10) (by omega) with zero | ⟨c, rest, starts, digit, nonzero⟩
        · have value := congrArg naturalOf zero
          rw [naturalOf_decimal] at value
          simp only [naturalOf, List.foldl_cons, List.foldl_nil, digitValue] at value
          omega
        · refine ⟨c, rest ++ [(n % 10).digitChar], ?_, digit, nonzero⟩
          rw [decimal] at starts
          rw [starts, List.cons_append]

theorem length_decimal_le {n width : Nat} (positive : 0 < width) (bound : n < 10 ^ width) :
    (decimal n).length ≤ width :=
  (Nat.length_toDigits_le_iff (by omega) positive).mpr bound

/-- The first digit of a number other than zero is not zero. -/
theorem pow_length_decimal_le {n : Nat} (nonzero : n ≠ 0) : 10 ^ ((decimal n).length - 1) ≤ n := by
  by_contra small
  have nonempty := List.length_pos_iff.mpr (decimal_ne_nil n)
  rcases Nat.eq_zero_or_pos ((decimal n).length - 1) with single | several
  · rw [single] at small
    omega
  · have short := length_decimal_le several (Nat.not_le.mp small)
    omega

theorem isDigit_of_mem_padded {width n : Nat} {c : Char} (inside : c ∈ padded width n) :
    isDigit c = true := by
  simp only [padded, List.mem_append, List.mem_replicate] at inside
  rcases inside with ⟨-, rfl⟩ | inside
  · rfl
  · exact isDigit_of_mem_decimal inside

@[simp]
theorem naturalOf_padded (width n : Nat) : naturalOf (padded width n) = n := by
  rw [padded, naturalOf_eq, Nat.ofDigitChars_append, Nat.ofDigitChars_replicate_zero,
    Nat.mul_zero, ← naturalOf_eq, naturalOf_decimal]

theorem naturalOf_lt {run : List Char} (allDigits : ∀ c ∈ run, isDigit c = true) :
    naturalOf run < 10 ^ run.length := by
  induction run using List.reverseRecOn with
  | nil => simp
  | append_singleton front c ih =>
      have digit := allDigits c (by simp)
      have value := ih fun c inside => allDigits c (by simp [inside])
      rw [isDigit_iff] at digit
      have small : digitValue c ≤ 9 := by
        simp only [digitValue]
        exact Nat.sub_le_sub_right digit.2 _
      rw [naturalOf_append_singleton, List.length_append, List.length_singleton, Nat.pow_succ]
      omega

/-- A number that fits the width fills it. -/
theorem length_padded {width n : Nat} (positive : 0 < width) (bound : n < 10 ^ width) :
    (padded width n).length = width := by
  have short := length_decimal_le positive bound
  simp only [padded, List.length_append, List.length_replicate]
  omega

theorem le_length_padded (width n : Nat) : width ≤ (padded width n).length := by
  simp only [padded, List.length_append, List.length_replicate]
  omega

/-! ## The order of texts -/

@[simp]
theorem naturalOf_append (front back : List Char) :
    naturalOf (front ++ back) = naturalOf front * 10 ^ back.length + naturalOf back := by
  induction back using List.reverseRecOn with
  | nil => simp
  | append_singleton back c ih =>
      rw [← List.append_assoc, naturalOf_append_singleton, ih, naturalOf_append_singleton,
        List.length_append, List.length_singleton, Nat.pow_succ, ← Nat.mul_assoc]
      omega

theorem naturalOf_cons (c : Char) (rest : List Char) :
    naturalOf (c :: rest) = digitValue c * 10 ^ rest.length + naturalOf rest := by
  simpa [naturalOf] using naturalOf_append [c] rest

@[simp]
theorem naturalOf_replicate_zero (count : Nat) : naturalOf (List.replicate count '0') = 0 := by
  rw [naturalOf_eq, Nat.ofDigitChars_replicate_zero, Nat.mul_zero]

theorem append_lt_append_iff {front other rest otherRest : List Char}
    (sameLength : front.length = other.length) :
    front ++ rest < other ++ otherRest ↔ front < other ∨ front = other ∧ rest < otherRest := by
  induction front generalizing other with
  | nil =>
      rcases List.length_eq_zero_iff.mp sameLength.symm with rfl
      simp
  | cons c front ih =>
      cases other with
      | nil => cases sameLength
      | cons d other =>
          have lengths : front.length = other.length := by simpa using sameLength
          simp only [List.cons_append, List.cons_lt_cons_iff, ih lengths, List.cons.injEq]
          tauto

/-- The leading digit decides unless it is the same. -/
theorem scaled_lt_iff {scale first second rest otherRest : Nat} (bound : rest < scale)
    (otherBound : otherRest < scale) :
    first * scale + rest < second * scale + otherRest ↔
      first < second ∨ first = second ∧ rest < otherRest := by
  rcases Nat.lt_trichotomy first second with less | rfl | more
  · have step := Nat.mul_le_mul_right scale (Nat.succ_le_of_lt less)
    rw [Nat.succ_mul] at step
    omega
  · simp
  · have step := Nat.mul_le_mul_right scale (Nat.succ_le_of_lt more)
    rw [Nat.succ_mul] at step
    omega

theorem digit_lt_iff {c d : Char} (digit : isDigit c = true) (otherDigit : isDigit d = true) :
    (c < d ↔ digitValue c < digitValue d) ∧ (c = d ↔ digitValue c = digitValue d) := by
  rw [isDigit_iff] at digit otherDigit
  have zero : '0'.toNat = 48 := rfl
  have less : c < d ↔ c.toNat < d.toNat := Iff.rfl
  rw [less, ← Char.toNat_inj, digitValue, digitValue, zero]
  omega

/-- Runs of digits of the same length are ordered as their numbers. -/
theorem lt_iff_naturalOf_lt {run other : List Char} (digits : ∀ c ∈ run, isDigit c = true)
    (otherDigits : ∀ c ∈ other, isDigit c = true) (sameLength : run.length = other.length) :
    run < other ↔ naturalOf run < naturalOf other := by
  induction run generalizing other with
  | nil =>
      rcases List.length_eq_zero_iff.mp sameLength.symm with rfl
      simp
  | cons c run ih =>
      cases other with
      | nil => cases sameLength
      | cons d other =>
          rcases List.forall_mem_cons.mp digits with ⟨digit, restDigits⟩
          rcases List.forall_mem_cons.mp otherDigits with ⟨otherDigit, otherRestDigits⟩
          rcases digit_lt_iff digit otherDigit with ⟨less, same⟩
          have lengths : run.length = other.length := by simpa using sameLength
          have bound := naturalOf_lt restDigits
          have otherBound := naturalOf_lt otherRestDigits
          rw [← lengths] at otherBound
          rw [List.cons_lt_cons_iff, ih restDigits otherRestDigits lengths, naturalOf_cons,
            naturalOf_cons, ← lengths, scaled_lt_iff bound otherBound, less, same]

section Padded

variable {width n m : Nat} (positive : 0 < width) (bound : n < 10 ^ width)
  (otherBound : m < 10 ^ width)

include positive bound otherBound

/-- Numbers of one width are ordered as their texts. -/
theorem padded_lt_padded_iff : padded width n < padded width m ↔ n < m := by
  rw [lt_iff_naturalOf_lt (fun c => isDigit_of_mem_padded) (fun c => isDigit_of_mem_padded),
    naturalOf_padded, naturalOf_padded]
  rw [length_padded positive bound, length_padded positive otherBound]

theorem padded_append_lt_iff {c : Char} {rest otherRest : List Char} :
    padded width n ++ c :: rest < padded width m ++ c :: otherRest ↔
      n < m ∨ n = m ∧ rest < otherRest := by
  have sameLength : (padded width n).length = (padded width m).length := by
    rw [length_padded positive bound, length_padded positive otherBound]
  have same : padded width n = padded width m ↔ n = m := by
    refine ⟨fun texts => ?_, fun numbers => by rw [numbers]⟩
    rw [← naturalOf_padded width n, texts, naturalOf_padded]
  rw [append_lt_append_iff sameLength, padded_lt_padded_iff positive bound otherBound, same,
    List.cons_lt_cons_iff]
  simp

end Padded

end TransactionLedger.Text
