import Mathlib.Tactic.SplitIfs
import TransactionLedger.Text.Utf8

/-!
# Reading UTF-8

The bytes of a character are read as this character, whatever follows them, so the bytes of a text
spell the text.
-/

namespace TransactionLedger.Text

variable {rest : List UInt8}

theorem toNat_byte {n : Nat} (small : n < 256) : (UInt8.ofNat n).toNat = n :=
  UInt8.toNat_ofNat_of_lt' small

theorem byte_lt_iff {n : Nat} (small : n < 256) (limit : UInt8) :
    UInt8.ofNat n < limit ↔ n < limit.toNat := by
  rw [UInt8.lt_iff_toNat_lt, toNat_byte small]

theorem isContinuation_byte (n : Nat) : isContinuation (UInt8.ofNat (n % 0x40 + 0x80)) = true := by
  have value := toNat_byte (show n % 0x40 + 0x80 < 256 by omega)
  simp only [isContinuation, Bool.and_eq_true, decide_eq_true_eq, UInt8.le_iff_toNat_le,
    UInt8.lt_iff_toNat_lt, value, UInt8.reduceToNat]
  omega

theorem addContinuation_byte (value n : Nat) :
    addContinuation value (UInt8.ofNat (n % 0x40 + 0x80)) = value * 64 + n % 0x40 := by
  rw [addContinuation, toNat_byte (by omega)]
  omega

/-- A number that needs the length spells its character. -/
theorem spelledChar?_toNat {least : Nat} {c : Char} (long : least ≤ c.toNat) :
    spelledChar? least c.toNat = some c := by
  have valid : c.toNat.isValidChar := c.valid
  rw [spelledChar?, dif_pos valid, if_pos long]
  rfl

theorem toNat_lt (c : Char) : c.toNat < 0x110000 := by
  rcases c.valid with low | high
  · exact Nat.lt_trans low (by decide)
  · exact high.2

section Lengths

variable {first second third fourth : UInt8} {c : Char}

theorem decodeUtf8_one (ends : first < 0x80) :
    decodeUtf8 (first :: rest) = some (Char.ofNat first.toNat) :: decodeUtf8 rest := by
  rw [decodeUtf8.eq_def]
  simp only [if_pos ends]

theorem decodeUtf8_two (least : ¬ first < 0xC0) (most : first < 0xE0)
    (secondContinues : isContinuation second = true)
    (spelled : spelledChar? 0x80 (addContinuation (first.toNat - 0xC0) second) = some c) :
    decodeUtf8 (first :: second :: rest) = some c :: decodeUtf8 rest := by
  have notOne : ¬ first < 0x80 := fun less => least (UInt8.lt_trans less (by decide))
  rw [decodeUtf8.eq_def]
  simp only [if_neg notOne, if_neg least, if_pos most, secondContinues, spelled]

theorem decodeUtf8_three (least : ¬ first < 0xE0) (most : first < 0xF0)
    (secondContinues : isContinuation second = true) (thirdContinues : isContinuation third = true)
    (spelled : spelledChar? 0x800
      (addContinuation (addContinuation (first.toNat - 0xE0) second) third) = some c) :
    decodeUtf8 (first :: second :: third :: rest) = some c :: decodeUtf8 rest := by
  have notOne : ¬ first < 0x80 := fun less => least (UInt8.lt_trans less (by decide))
  have leads : ¬ first < 0xC0 := fun less => least (UInt8.lt_trans less (by decide))
  rw [decodeUtf8.eq_def]
  simp only [if_neg notOne, if_neg leads, if_neg least, if_pos most, secondContinues,
    thirdContinues, Bool.and_self, spelled]

theorem decodeUtf8_four (least : ¬ first < 0xF0) (most : first < 0xF8)
    (secondContinues : isContinuation second = true) (thirdContinues : isContinuation third = true)
    (fourthContinues : isContinuation fourth = true)
    (spelled : spelledChar? 0x10000 (addContinuation
      (addContinuation (addContinuation (first.toNat - 0xF0) second) third) fourth) = some c) :
    decodeUtf8 (first :: second :: third :: fourth :: rest) = some c :: decodeUtf8 rest := by
  have notOne : ¬ first < 0x80 := fun less => least (UInt8.lt_trans less (by decide))
  have leads : ¬ first < 0xC0 := fun less => least (UInt8.lt_trans less (by decide))
  have notTwo : ¬ first < 0xE0 := fun less => least (UInt8.lt_trans less (by decide))
  rw [decodeUtf8.eq_def]
  simp only [if_neg notOne, if_neg leads, if_neg notTwo, if_neg least, if_pos most,
    secondContinues, thirdContinues, fourthContinues, Bool.and_self, spelled]

end Lengths

/-- The bytes of a character are read as the character, whatever follows. -/
theorem decodeUtf8_utf8EncodeChar (c : Char) :
    decodeUtf8 (String.utf8EncodeChar c ++ rest) = some c :: decodeUtf8 rest := by
  have bound := toNat_lt c
  have number : c.val.toNat = c.toNat := rfl
  simp only [String.utf8EncodeChar, number]
  split_ifs with one two three
  · have ends : UInt8.ofNat c.toNat < 0x80 := (byte_lt_iff (by omega) _).mpr (by simp; omega)
    rw [List.singleton_append, decodeUtf8_one ends, toNat_byte (by omega), Char.ofNat_toNat]
  · have small : c.toNat / 64 % 0x20 + 0xC0 < 256 := by omega
    refine decodeUtf8_two ?_ ?_ (isContinuation_byte _) ?_
    · simp only [byte_lt_iff small, UInt8.reduceToNat]
      omega
    · simp only [byte_lt_iff small, UInt8.reduceToNat]
      omega
    · have value : (c.toNat / 64 % 0x20 + 0xC0 - 0xC0) * 64 + c.toNat % 0x40 = c.toNat := by omega
      rw [toNat_byte small, addContinuation_byte, value]
      exact spelledChar?_toNat (by omega)
  · have small : c.toNat / 4096 % 0x10 + 0xE0 < 256 := by omega
    refine decodeUtf8_three ?_ ?_ (isContinuation_byte _) (isContinuation_byte _) ?_
    · simp only [byte_lt_iff small, UInt8.reduceToNat]
      omega
    · simp only [byte_lt_iff small, UInt8.reduceToNat]
      omega
    · have value : ((c.toNat / 4096 % 0x10 + 0xE0 - 0xE0) * 64 + c.toNat / 64 % 0x40) * 64 +
          c.toNat % 0x40 = c.toNat := by omega
      rw [toNat_byte small, addContinuation_byte, addContinuation_byte, value]
      exact spelledChar?_toNat (by omega)
  · have small : c.toNat / 262144 % 0x08 + 0xF0 < 256 := by omega
    refine decodeUtf8_four ?_ ?_ (isContinuation_byte _) (isContinuation_byte _)
      (isContinuation_byte _) ?_
    · simp only [byte_lt_iff small, UInt8.reduceToNat]
      omega
    · simp only [byte_lt_iff small, UInt8.reduceToNat]
      omega
    · have value : (((c.toNat / 262144 % 0x08 + 0xF0 - 0xF0) * 64 + c.toNat / 4096 % 0x40) * 64 +
          c.toNat / 64 % 0x40) * 64 + c.toNat % 0x40 = c.toNat := by omega
      rw [toNat_byte small, addContinuation_byte, addContinuation_byte, addContinuation_byte, value]
      exact spelledChar?_toNat (by omega)

theorem decodeUtf8_flatMap (text : List Char) :
    decodeUtf8 (text.flatMap String.utf8EncodeChar) = text.map some := by
  induction text with
  | nil => rfl
  | cons c text ih => rw [List.flatMap_cons, decodeUtf8_utf8EncodeChar, ih, List.map_cons]

theorem mapM_id_map_some (text : List Char) : (text.map some).mapM id = some text := by
  induction text with
  | nil => rfl
  | cons c text ih => simp [ih]

/-- The bytes of a text spell the text. -/
theorem utf8Text?_utf8Bytes (text : String) : utf8Text? (utf8Bytes text) = some text := by
  rw [utf8Text?, utf8Bytes, decodeUtf8_flatMap, mapM_id_map_some, Option.map_some,
    String.ofList_toList]

/-- No character takes more than four bytes. -/
theorem length_utf8Bytes_le (text : String) :
    (utf8Bytes text).length ≤ 4 * text.toList.length := by
  unfold utf8Bytes
  induction text.toList with
  | nil => exact Nat.zero_le _
  | cons c rest ih =>
      have most := c.utf8Size_le_four
      rw [List.flatMap_cons, List.length_append, String.length_utf8EncodeChar, List.length_cons]
      omega

/-- Every character takes at least one byte. -/
theorem length_le_length_utf8Bytes (text : String) :
    text.toList.length ≤ (utf8Bytes text).length := by
  unfold utf8Bytes
  induction text.toList with
  | nil => exact Nat.zero_le _
  | cons c rest ih =>
      have positive := c.utf8Size_pos
      rw [List.flatMap_cons, List.length_append, String.length_utf8EncodeChar, List.length_cons]
      omega

end TransactionLedger.Text
