import Mathlib
import TransactionLedger.Http.Route
import TransactionLedger.Proofs.Text.Utf8

/-!
# The target of a history

An id is written into a target byte by byte: the characters that mean nothing in a target stand for
themselves, every other byte is a percent sign and two hexadecimal digits. Read back, the segment is
the id; and it leads to the history of the id, unless it is a name that leads elsewhere.
-/

namespace TransactionLedger.Http

/-! ## Segments -/

/-- The characters that mean nothing in a target. -/
def isUnreserved (c : Char) : Bool :=
  c.isAlphanum || c == '-' || c == '.' || c == '_' || c == '~'

def hexDigit (n : Nat) : Char :=
  if n < 10 then Char.ofNat ('0'.toNat + n) else Char.ofNat ('A'.toNat + (n - 10))

def percentEncodedByte (byte : UInt8) : List Char :=
  if isUnreserved (Char.ofNat byte.toNat) then [Char.ofNat byte.toNat]
  else ['%', hexDigit (byte.toNat / 16), hexDigit (byte.toNat % 16)]

/-- A text as it is written into a target. -/
def percentEncoded (text : String) : List Char :=
  (Text.utf8Bytes text).flatMap percentEncodedByte

theorem toNat_lt_of_isUnreserved {c : Char} (unreserved : isUnreserved c = true) :
    c.toNat < 128 := by
  have lastUpper : 'Z'.val.toNat = 90 := rfl
  have lastLower : 'z'.val.toNat = 122 := rfl
  have lastDigit : '9'.val.toNat = 57 := rfl
  simp only [isUnreserved, Char.isAlphanum, Char.isAlpha, Char.isUpper, Char.isLower, Char.isDigit,
    Bool.or_eq_true, Bool.and_eq_true, decide_eq_true_eq, beq_iff_eq, UInt32.le_iff_toNat_le]
    at unreserved
  change c.val.toNat < 128
  rcases unreserved with (((alphanumeric | rfl) | rfl) | rfl) | rfl
  · omega
  all_goals decide

theorem hexDigit_spec {n : Nat} (small : n < 16) : isUnreserved (hexDigit n) = true ∧
    Text.hexValue? (hexDigit n) = some n := by
  have each : ∀ n < 16, isUnreserved (hexDigit n) = true ∧
      Text.hexValue? (hexDigit n) = some n := by
    decide
  exact each n small

theorem utf8EncodeChar_of_ascii {c : Char} (ascii : c.toNat < 128) :
    String.utf8EncodeChar c = [UInt8.ofNat c.toNat] :=
  if_pos (Nat.le_of_lt_succ ascii)

theorem percentDecoded_cons {byte : UInt8} {rest : List UInt8} (literal : byte ≠ '%'.toUInt8) :
    percentDecoded (byte :: rest) = byte :: percentDecoded rest := by
  rcases rest with _ | ⟨second, _ | ⟨third, rest⟩⟩
  · rfl
  · rfl
  · rw [percentDecoded, if_neg literal]

theorem percentDecoded_hex {byte high low : UInt8} {rest : List UInt8}
    (read : hexByte? high low = some byte) :
    percentDecoded ('%'.toUInt8 :: high :: low :: rest) = byte :: percentDecoded rest := by
  rw [percentDecoded, if_pos rfl, read]

theorem hexByte?_hexDigit (byte : UInt8) :
    hexByte? (UInt8.ofNat (hexDigit (byte.toNat / 16)).toNat)
      (UInt8.ofNat (hexDigit (byte.toNat % 16)).toNat) = some byte := by
  have bound := byte.toNat_lt
  rcases hexDigit_spec (show byte.toNat / 16 < 16 by omega) with ⟨highAscii, high⟩
  rcases hexDigit_spec (show byte.toNat % 16 < 16 by omega) with ⟨lowAscii, low⟩
  have highBound := toNat_lt_of_isUnreserved highAscii
  have lowBound := toNat_lt_of_isUnreserved lowAscii
  rw [hexByte?, Text.toNat_byte (by omega), Text.toNat_byte (by omega), Char.ofNat_toNat,
    Char.ofNat_toNat, high, low]
  change some (UInt8.ofNat (16 * (byte.toNat / 16) + byte.toNat % 16)) = some byte
  rw [Nat.div_add_mod, UInt8.ofNat_toNat]

theorem toNat_ofNat_byte (byte : UInt8) : (Char.ofNat byte.toNat).toNat = byte.toNat := by
  have valid : byte.toNat.isValidChar := .inl (Nat.lt_trans byte.toNat_lt (by decide))
  rw [Char.ofNat, dif_pos valid]
  rfl

/-- The byte is read back, whatever follows. -/
theorem percentDecoded_percentEncodedByte (byte : UInt8) (rest : List UInt8) :
    percentDecoded ((percentEncodedByte byte).flatMap String.utf8EncodeChar ++ rest) =
      byte :: percentDecoded rest := by
  have bound := byte.toNat_lt
  have number : (Char.ofNat byte.toNat).toNat = byte.toNat := toNat_ofNat_byte byte
  rw [percentEncodedByte]
  split
  · rename_i unreserved
    have ascii := toNat_lt_of_isUnreserved unreserved
    have literal : byte ≠ '%'.toUInt8 := by
      rintro rfl
      revert unreserved
      decide
    simp only [List.flatMap_cons, List.flatMap_nil, List.append_nil, utf8EncodeChar_of_ascii ascii,
      number, UInt8.ofNat_toNat, List.singleton_append]
    exact percentDecoded_cons literal
  · have highAscii := (hexDigit_spec (show byte.toNat / 16 < 16 by omega)).1
    have lowAscii := (hexDigit_spec (show byte.toNat % 16 < 16 by omega)).1
    simp only [List.flatMap_cons, List.flatMap_nil, List.append_nil,
      utf8EncodeChar_of_ascii (toNat_lt_of_isUnreserved highAscii),
      utf8EncodeChar_of_ascii (toNat_lt_of_isUnreserved lowAscii),
      utf8EncodeChar_of_ascii (show '%'.toNat < 128 by decide), List.cons_append, List.nil_append]
    exact percentDecoded_hex (hexByte?_hexDigit byte)

/-- A text that is written into a target is read back. -/
theorem segmentText?_percentEncoded (text : String) :
    segmentText? (percentEncoded text) = some text := by
  -- Each byte is decoded on its own, so the induction is on the bytes, not on the characters.
  have decoded (bytes : List UInt8) : percentDecoded
      ((bytes.flatMap percentEncodedByte).flatMap String.utf8EncodeChar) = bytes := by
    induction bytes with
    | nil => rfl
    | cons byte bytes ih =>
        rw [List.flatMap_cons, List.flatMap_append, percentDecoded_percentEncodedByte, ih]
  rw [segmentText?, Text.utf8Bytes, String.toList_ofList, percentEncoded, decoded,
    Text.utf8Text?_utf8Bytes]

theorem percentEncoded_injective {text other : String}
    (same : percentEncoded text = percentEncoded other) : text = other := by
  have read := segmentText?_percentEncoded text
  rw [same, segmentText?_percentEncoded] at read
  exact (Option.some.inj read).symm

/-- What is written into a target keeps clear of the characters that structure it. -/
theorem isUnreserved_of_mem_percentEncoded {text : String} {c : Char}
    (mem : c ∈ percentEncoded text) : isUnreserved c = true ∨ c = '%' := by
  rw [percentEncoded, List.mem_flatMap] at mem
  rcases mem with ⟨byte, -, mem⟩
  have bound := byte.toNat_lt
  rw [percentEncodedByte] at mem
  split at mem
  · rename_i unreserved
    rw [List.mem_singleton] at mem
    exact .inl (mem ▸ unreserved)
  · simp only [List.mem_cons, List.not_mem_nil, or_false] at mem
    rcases mem with rfl | rfl | rfl
    · exact .inr rfl
    · exact .inl (hexDigit_spec (by omega)).1
    · exact .inl (hexDigit_spec (by omega)).1

theorem not_mem_percentEncoded {text : String} {c : Char} (reserved : isUnreserved c = false)
    (other : c ≠ '%') : c ∉ percentEncoded text := by
  intro mem
  rcases isUnreserved_of_mem_percentEncoded mem with unreserved | same
  · exact Bool.false_ne_true (reserved.symm.trans unreserved)
  · exact other same

/-! ## Paths -/

theorem split_eq_cons (path : List Char) :
    ∃ first more, segments?.split path = first :: more := by
  rcases path with _ | ⟨c, path⟩
  · exact ⟨_, _, rfl⟩
  · rw [segments?.split]
    split
    · exact ⟨_, _, rfl⟩
    · split_ifs
      · exact ⟨_, _, rfl⟩
      · exact ⟨_, _, rfl⟩

theorem split_of_not_mem {segment : List Char} (noSlash : '/' ∉ segment) :
    segments?.split segment = [segment] := by
  induction segment with
  | nil => rfl
  | cons c segment ih =>
      rw [List.mem_cons, not_or] at noSlash
      rw [segments?.split, ih noSlash.2]
      exact if_neg (Ne.symm noSlash.1)

theorem split_append_slash {segment : List Char} (noSlash : '/' ∉ segment) (path : List Char) :
    segments?.split (segment ++ '/' :: path) = segment :: segments?.split path := by
  induction segment with
  | nil =>
      rcases split_eq_cons path with ⟨first, more, cut⟩
      rw [List.nil_append, segments?.split, cut]
      exact if_pos rfl
  | cons c segment ih =>
      rw [List.mem_cons, not_or] at noSlash
      rw [List.cons_append, segments?.split, ih noSlash.2]
      exact if_neg (Ne.symm noSlash.1)

/-- The target under which the history of an id is requested. -/
def historyTarget (id : String) : String :=
  String.ofList ('/' :: Route.recordsSegment.toList ++ '/' :: percentEncoded id)

example : historyTarget "a/ü" = "/transactionRecords/a%2F%C3%BC" := rfl

theorem pathOf_historyTarget (id : String) :
    pathOf (historyTarget id) = '/' :: Route.recordsSegment.toList ++ '/' :: percentEncoded id := by
  rw [pathOf, historyTarget, String.toList_ofList]
  change List.takeWhile _ ('/' :: Route.recordsSegment.toList ++ '/' :: percentEncoded id) = _
  refine List.takeWhile_eq_self_iff.mpr fun c mem => ?_
  rcases List.mem_append.mp mem with front | behind
  · have plain : ('/' :: Route.recordsSegment.toList).all (fun c => c != '?' && c != '#') = true := by
      decide
    exact List.all_eq_true.mp plain c front
  rcases List.mem_cons.mp behind with rfl | encoded
  · decide
  · have noQuery : '?' ∉ percentEncoded id := not_mem_percentEncoded (by decide) (by decide)
    have noFragment : '#' ∉ percentEncoded id := not_mem_percentEncoded (by decide) (by decide)
    rw [Bool.and_eq_true, bne_iff_ne, bne_iff_ne]
    exact ⟨fun same => noQuery (same ▸ encoded), fun same => noFragment (same ▸ encoded)⟩

/-- An id leads to its history unless it is empty or `search`. -/
theorem ofPath?_historyTarget {id : String} (nonempty : id ≠ "") (other : id ≠ "search") :
    Route.ofPath? (pathOf (historyTarget id)) = some (.history (percentEncoded id)) := by
  have cut : segments? (pathOf (historyTarget id)) =
      some [Route.recordsSegment.toList, percentEncoded id] := by
    rw [pathOf_historyTarget, List.cons_append, segments?, if_pos rfl,
      split_append_slash (by decide), split_of_not_mem (not_mem_percentEncoded (by decide) (by decide))]
  have notEmpty : (percentEncoded id).isEmpty = false := by
    rw [List.isEmpty_eq_false_iff]
    intro empty
    have same : percentEncoded id = percentEncoded "" := empty
    exact nonempty (percentEncoded_injective same)
  have notSearch : percentEncoded id ≠ "search".toList := by
    intro search
    have same : percentEncoded id = percentEncoded "search" := search
    exact other (percentEncoded_injective same)
  rw [Route.ofPath?, cut]
  simp only [if_pos, notEmpty, if_neg notSearch, Bool.false_eq_true, if_false]

end TransactionLedger.Http
