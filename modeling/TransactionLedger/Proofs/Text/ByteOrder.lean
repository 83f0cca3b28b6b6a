import TransactionLedger.Proofs.Text.Utf8

/-!
# The order of bytes

Texts are in the order of their bytes: a character with a greater number has the greater bytes,
whatever follows. A text of ASCII characters has one byte for each of them.
-/

namespace TransactionLedger.Text

theorem byte_lt_byte_iff {n m : Nat} (small : n < 256) (otherSmall : m < 256) :
    UInt8.ofNat n < UInt8.ofNat m ↔ n < m := by
  rw [byte_lt_iff small, toNat_byte otherSmall]

theorem byte_inj {n m : Nat} (small : n < 256) (otherSmall : m < 256) :
    UInt8.ofNat n = UInt8.ofNat m ↔ n = m := by
  rw [← UInt8.toNat_inj, toNat_byte small, toNat_byte otherSmall]

/-- The bytes of a character come before those of any greater one, whatever follows. -/
theorem utf8EncodeChar_append_lt {c d : Char} (less : c < d) (rest other : List UInt8) :
    String.utf8EncodeChar c ++ rest < String.utf8EncodeChar d ++ other := by
  have number (c : Char) : c.val.toNat = c.toNat := rfl
  have before : c.toNat < d.toNat := less
  have bound := toNat_lt c
  have otherBound := toNat_lt d
  simp only [String.utf8EncodeChar, number]
  generalize c.toNat = n at *
  generalize d.toNat = m at *
  have middle (n : Nat) : n / 4096 = n / 64 / 64 := by omega
  have high (n : Nat) : n / 262144 = n / 64 / 64 / 64 := by omega
  split_ifs <;>
    simp (disch := omega) only [List.cons_append, List.nil_append, List.cons_lt_cons_iff,
      byte_lt_byte_iff, byte_inj, middle, high]
  all_goals omega

theorem append_lt_append_left_iff (front : List UInt8) {rest other : List UInt8} :
    front ++ rest < front ++ other ↔ rest < other := by
  induction front with
  | nil => rfl
  | cons byte front ih => simp [ih]

theorem flatMap_utf8EncodeChar_lt_iff {text other : List Char} :
    text.flatMap String.utf8EncodeChar < other.flatMap String.utf8EncodeChar ↔ text < other := by
  induction text generalizing other with
  | nil =>
      cases other with
      | nil => simp
      | cons d other =>
          rcases List.exists_cons_of_ne_nil (String.utf8EncodeChar_ne_nil (c := d)) with
            ⟨byte, more, starts⟩
          simp [starts]
  | cons c text ih =>
      cases other with
      | nil => simp
      | cons d other =>
          rw [List.flatMap_cons, List.flatMap_cons, List.cons_lt_cons_iff]
          rcases Nat.lt_trichotomy c.toNat d.toNat with less | same | more
          · have before : c < d := less
            simp [before, utf8EncodeChar_append_lt before]
          · rcases Char.toNat_inj.mp same with rfl
            simp [append_lt_append_left_iff, ih]
          · have behind : d < c := more
            have bytes := utf8EncodeChar_append_lt behind (other.flatMap String.utf8EncodeChar)
              (text.flatMap String.utf8EncodeChar)
            simp [List.lt_asymm bytes, Char.lt_asymm behind, Ne.symm (Char.ne_of_lt behind)]

/-- Texts are in the order of their bytes. -/
theorem utf8Bytes_lt_iff {text other : String} : utf8Bytes text < utf8Bytes other ↔ text < other := by
  rw [utf8Bytes, utf8Bytes, flatMap_utf8EncodeChar_lt_iff, String.lt_iff]

theorem utf8Bytes_le_iff {text other : String} : utf8Bytes text ≤ utf8Bytes other ↔ text ≤ other := by
  rw [← List.not_lt, utf8Bytes_lt_iff, String.not_lt]

/-- A text of ASCII characters has a byte for each of them. -/
theorem length_utf8Bytes_of_ascii {text : String} (ascii : ∀ c ∈ text.toList, c.toNat < 128) :
    (utf8Bytes text).length = text.toList.length := by
  have single : ∀ c ∈ text.toList, (String.utf8EncodeChar c).length = 1 := by
    intro c inside
    rw [String.length_utf8EncodeChar, Char.utf8Size_eq_one_iff]
    exact Nat.le_of_lt_succ (ascii c inside)
  rw [utf8Bytes, List.length_flatMap, List.map_congr_left single, List.map_const',
    List.sum_replicate_nat, Nat.mul_one]

end TransactionLedger.Text
