import TransactionLedger.Proofs.Decimal.Binary64

/-!
# The order of numbers

A number of 64 bits compares with an integer as the rational number that it stands for. Rounding
keeps a quotient on its side of every power of two on the grid, so a natural number that has more
than 63 bits is still above all integers of 64 bits with a sign when it has been rounded.
-/

namespace TransactionLedger.Decimal

/-- Values compare alike if they are below and above each other alike. -/
theorem compare_eq_compare {α β : Type} [LinearOrder α] [LinearOrder β] {a b : α} {x y : β}
    (below : a < b ↔ x < y) (above : b < a ↔ y < x) : compare a b = compare x y := by
  rcases lt_trichotomy x y with less | same | more
  · exact (compare_lt_iff_lt.mpr (below.mpr less)).trans (compare_lt_iff_lt.mpr less).symm
  · have equal : a = b := by
      apply le_antisymm
      · exact not_lt.mp fun more => absurd (above.mp more) (same ▸ lt_irrefl x)
      · exact not_lt.mp fun less => absurd (below.mp less) (same ▸ lt_irrefl x)
    exact (compare_eq_iff_eq.mpr equal).trans (compare_eq_iff_eq.mpr same).symm
  · exact (compare_gt_iff_gt.mpr (above.mpr more)).trans (compare_gt_iff_gt.mpr more).symm

/-! ## Rounding and powers of two -/

section Grid

variable {bits : Nat} {least : Option Int} {numerator denominator : Nat}

theorem two_pow_le_value_roundQuotient (someBits : 0 < bits) (above : 0 < numerator)
    (positive : 0 < denominator) {power : Int}
    (fits : (2 : ℚ) ^ power ≤ numerator / denominator)
    (coarse : gridExponent bits least numerator denominator ≤ power) :
    (2 : ℚ) ^ power ≤ (roundQuotient bits least numerator denominator).value := by
  obtain ⟨steps, split⟩ := Int.exists_add_of_le coarse
  have scaled : (2 : ℚ) ^ power =
      (2 ^ steps : Nat) * 2 ^ gridExponent bits least numerator denominator := by
    rw [split, zpow_add₀ two_ne_zero, zpow_natCast, mul_comm]
    push_cast
    rfl
  have crossed : 2 ^ steps ≤ gridPoint bits least numerator denominator := by
    apply le_gridPoint positive
    rw [le_div_iff₀ (by positivity), ← scaled]
    exact fits
  rw [value_roundQuotient bits least someBits above, scaled]
  gcongr

end Grid

namespace Binary64

/-- The rational number that a number stands for. -/
def value (x : Binary64) : ℚ :=
  if x.negative then -x.absolute else x.absolute

theorem value_eq_div (x : Binary64) : x.value = x.signedNumerator / x.magnitude.denominator := by
  unfold value signedNumerator absolute
  rw [Scaled.value_eq_div]
  split_ifs
  · push_cast
    rw [neg_div]
  · rfl

/-- A number compares with an integer as the rational number that it stands for. -/
theorem orderInt_eq (x : Binary64) (n : Int) : x.orderInt n = compare x.value (n : ℚ) := by
  have positive : (0 : ℚ) < x.magnitude.denominator :=
    Nat.cast_pos.mpr x.magnitude.denominator_pos
  apply compare_eq_compare
  · rw [value_eq_div, div_lt_iff₀ positive]
    exact_mod_cast Iff.rfl
  · rw [value_eq_div, lt_div_iff₀ positive]
    exact_mod_cast Iff.rfl

/-- An integer of 64 bits without a sign that has no place among those with one is rounded to a
number above all of them. -/
theorem two_pow_le_value_of_ofNat? {n : Nat} (least : 2 ^ 63 ≤ n) (most : n < 2 ^ 64) {x : Binary64}
    (rounded : ofNat? n = some x) : (2 : ℚ) ^ (63 : Int) ≤ x.value := by
  have above : 0 < n := by omega
  have fits : (2 : ℚ) ^ (63 : Int) ≤ n / (1 : Nat) := by
    rw [Nat.cast_one, div_one]
    exact_mod_cast least
  have below : (n / (1 : Nat) : ℚ) < 2 ^ (64 : Int) := by
    rw [Nat.cast_one, div_one]
    exact_mod_cast most
  have coarse : gridExponent precision (some leastExponent) n 1 ≤ 63 := by
    rcases gridExponent_cases precision (some leastExponent) above one_pos with fills | stopped
    · have exponents := (zpow_lt_zpow_iff_right₀ one_lt_two).mp (fills.trans_lt below)
      simp only [precision] at exponents ⊢
      omega
    · rw [← Option.some.inj stopped]
      decide
  have bounded := two_pow_le_value_roundQuotient (by decide) above one_pos fits coarse
  simp only [ofNat?, ofQuotient?] at rounded
  split_ifs at rounded with inRange
  rw [← Option.some.inj rounded]
  exact bounded

end Binary64

end TransactionLedger.Decimal
