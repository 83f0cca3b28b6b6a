import TransactionLedger.Proofs.Text.ByteOrder
import TransactionLedger.Proofs.Timestamp.Order

/-!
# The bytes of stored times

In the years of four digits all stored times have the same number of bytes, and their bytes are in
the chronological order of the instants, cut to milliseconds.
-/

namespace TransactionLedger.Timestamp.Instant

variable {instant other : Instant}

theorem le_refl (instant : Instant) : instant ≤ instant :=
  le_iff.mpr (.inr ⟨rfl, Nat.le_refl _⟩)

theorem le_antisymm (before : instant ≤ other) (behind : other ≤ instant) : instant = other := by
  rw [le_iff] at before behind
  rcases instant with ⟨seconds, nanos⟩
  rcases other with ⟨otherSeconds, otherNanos⟩
  simp only [mk.injEq] at before behind ⊢
  omega

theorem ascii_of_mem_padded {width n : Nat} : ∀ c ∈ Text.padded width n, c.toNat < 128 := by
  intro c inside
  have digit := Text.isDigit_of_mem_padded inside
  rw [Text.isDigit_iff] at digit
  omega

theorem ascii_of_mem_stored (inYear : instant.InFourDigitYear) :
    ∀ c ∈ instant.stored.toList, c.toNat < 128 := by
  simp only [toList_stored inYear, timeText, List.append_assoc, List.cons_append,
    List.forall_mem_append, List.forall_mem_cons]
  exact ⟨ascii_of_mem_padded, by decide, ascii_of_mem_padded, by decide, ascii_of_mem_padded,
    by decide, ascii_of_mem_padded, by decide, ascii_of_mem_padded, by decide, ascii_of_mem_padded,
    by decide, ascii_of_mem_padded⟩

theorem length_stored (valid : instant.Valid) (inYear : instant.InFourDigitYear) :
    instant.stored.toList.length = 23 := by
  rcases date_lt inYear with ⟨year, month, day⟩
  rcases valid.clock_lt with ⟨hour, minute, second, milli⟩
  simp only [toList_stored inYear, timeText, List.length_append, List.length_cons,
    Text.length_padded (Nat.succ_pos 3) year, Text.length_padded Nat.two_pos month,
    Text.length_padded Nat.two_pos day, Text.length_padded Nat.two_pos hour,
    Text.length_padded Nat.two_pos minute, Text.length_padded Nat.two_pos second,
    Text.length_padded (Nat.succ_pos 2) milli]

theorem length_utf8Bytes_stored (valid : instant.Valid) (inYear : instant.InFourDigitYear) :
    (Text.utf8Bytes instant.stored).length = 23 := by
  rw [Text.length_utf8Bytes_of_ascii (ascii_of_mem_stored inYear), length_stored valid inYear]

/-- In the years of four digits a stored time has 23 bytes. Stored times compare byte by byte as the
instants do, cut to milliseconds, and are the same for the same instants only. -/
theorem stored_embeds (valid : instant.Valid) (otherValid : other.Valid)
    (inYear : instant.InFourDigitYear) (otherInYear : other.InFourDigitYear) :
    (Text.utf8Bytes instant.stored).length = 23 ∧ (Text.utf8Bytes other.stored).length = 23 ∧
      (Text.utf8Bytes instant.stored ≤ Text.utf8Bytes other.stored ↔
        instant.truncate ≤ other.truncate) ∧
      (instant.stored = other.stored ↔ instant.truncate = other.truncate) := by
  have before := stored_le_iff valid otherValid inYear otherInYear
  have behind := stored_le_iff otherValid valid otherInYear inYear
  rw [← inYear.truncate_eq, ← otherInYear.truncate_eq] at before behind
  refine ⟨length_utf8Bytes_stored valid inYear, length_utf8Bytes_stored otherValid otherInYear, ?_,
    ?_, ?_⟩
  · rw [Text.utf8Bytes_le_iff, before]
  · intro same
    rw [same] at before behind
    exact le_antisymm (before.mp (String.le_refl _)) (behind.mp (String.le_refl _))
  · intro same
    rw [same] at before behind
    exact String.le_antisymm (before.mpr (le_refl _)) (behind.mpr (le_refl _))

/-- The end of a leap second, and the start of the year behind it. -/
theorem stored_embeds_newYear :
    Text.utf8Bytes (Instant.mk 1704067199 1999999999).stored ≤
        Text.utf8Bytes (Instant.mk 1704067200 999999).stored ∧
      (Instant.mk 1704067199 1999999999).stored ≠ (Instant.mk 1704067200 999999).stored := by
  rcases @stored_embeds ⟨1704067199, 1999999999⟩ ⟨1704067200, 999999⟩ (by decide) (by decide)
    (by decide) (by decide) with ⟨-, -, ordered, same⟩
  exact ⟨ordered.mpr (by decide), fun stored => absurd (same.mp stored) (by decide)⟩

end TransactionLedger.Timestamp.Instant
