import TransactionLedger.Proofs.Sql.StoredPath
import TransactionLedger.Proofs.Text.Utf8

/-!
# Positions in payloads

The database counts positions with 32 bits, and the texts that it stores are far shorter than that:
an array in a payload has fewer items than the payload has characters. A path that leads to a part
therefore never asks for a position that the database cannot count up to.
-/

namespace TransactionLedger

open Query

namespace Json

/-! ## Parts are shorter than the whole -/

section Separated

variable {separator : Char} {texts : List (List Char)}

theorem length_le_length_separated {part : List Char} (inside : part ∈ texts) :
    part.length ≤ (separated separator texts).length := by
  induction texts with
  | nil => contradiction
  | cons first rest ih =>
      cases rest with
      | nil => exact (congrArg List.length (List.mem_singleton.mp inside)).le
      | cons second rest =>
          simp only [separated, List.length_append, List.length_cons]
          rcases List.mem_cons.mp inside with rfl | behind
          · omega
          · have bounded := ih behind
            omega

/-- A separator stands between any two texts. -/
theorem length_le_length_separated_succ :
    texts.length ≤ (separated separator texts).length + 1 := by
  induction texts with
  | nil => exact Nat.zero_le _
  | cons first rest ih =>
      cases rest with
      | nil => exact Nat.le_add_left 1 _
      | cons second rest =>
          simp only [separated, List.length_append, List.length_cons] at ih ⊢
          omega

end Separated

theorem itemTexts_itemNodes (items : List Json) :
    Node.itemTexts (itemNodes items) = items.map text := by
  induction items with
  | nil => rfl
  | cons item rest ih => simp [itemNodes, Node.itemTexts, compactText_node, ih]

theorem memberTexts_memberNodes (members : Members) :
    Node.memberTexts (memberNodes members) =
      members.map fun member => quoted member.1 ++ ':' :: member.2.text := by
  induction members with
  | nil => rfl
  | cons member rest ih => simp [memberNodes, Node.memberTexts, compactText_node, ih]

theorem text_array (items : List Json) :
    (array items).text = '[' :: separated ',' (items.map text) ++ [']'] := by
  rw [← compactText_node, ← itemTexts_itemNodes]
  rfl

theorem text_object (members : Members) :
    (object members).text = '{' :: separated ','
      (members.map fun member => quoted member.1 ++ ':' :: member.2.text) ++ ['}'] := by
  rw [← compactText_node, ← memberTexts_memberNodes]
  rfl

theorem length_lt_text_array (items : List Json) : items.length < (array items).text.length := by
  have commas : (items.map text).length ≤ (separated ',' (items.map text)).length + 1 :=
    length_le_length_separated_succ
  simp only [text_array, List.length_append, List.length_cons, List.length_map] at commas ⊢
  omega

theorem length_text_le_text_array {item : Json} {items : List Json} (inside : item ∈ items) :
    item.text.length ≤ (array items).text.length := by
  have within : item.text.length ≤ (separated ',' (items.map text)).length :=
    length_le_length_separated (List.mem_map_of_mem inside)
  simp only [text_array, List.length_append, List.length_cons]
  omega

theorem length_text_le_text_object {member : String × Json} {members : Members}
    (inside : member ∈ members) : member.2.text.length ≤ (object members).text.length := by
  have within : (quoted member.1 ++ ':' :: member.2.text).length ≤ (separated ','
      (members.map fun member => quoted member.1 ++ ':' :: member.2.text)).length :=
    length_le_length_separated (List.mem_map_of_mem inside)
  simp only [text_object, List.length_append, List.length_cons] at within ⊢
  omega

/-! ## Following a path -/

variable {value part : Json}

/-- One step leads to a part that is no longer, and counts no further than the value is long. -/
theorem of_child? {step : Segment} (found : value.child? step = some part) :
    part.text.length ≤ value.text.length ∧
      (value.text.length ≤ Node.positionModulus → step.IsAddressable) := by
  cases step with
  | member name =>
      refine ⟨?_, fun _ => trivial⟩
      cases value with
      | object members =>
          rcases Option.map_eq_some_iff.mp found with ⟨member, isFirst, rfl⟩
          exact length_text_le_text_object (List.mem_of_find?_eq_some isFirst)
      | _ => contradiction
  | element digits =>
      cases value with
      | array items =>
          rcases List.getElem?_eq_some_iff.mp found with ⟨inRange, rfl⟩
          refine ⟨length_text_le_text_array (List.getElem_mem inRange), fun small => ?_⟩
          exact inRange.trans ((length_lt_text_array items).trans_le small)
      | _ => contradiction

/-- A path that leads to a part of a short payload stays within the positions that the database can
count. -/
theorem isAddressable_of_follow? {path : List Segment}
    (small : value.text.length ≤ Node.positionModulus) (found : value.follow? path = some part) :
    ∀ step ∈ path, step.IsAddressable := by
  induction path generalizing value with
  | nil => exact fun step inside => absurd inside List.not_mem_nil
  | cons first rest ih =>
      rcases Option.bind_eq_some_iff.mp found with ⟨next, isChild, leads⟩
      rcases of_child? isChild with ⟨shorter, addressable⟩
      intro step inside
      rcases List.mem_cons.mp inside with rfl | behind
      · exact addressable small
      · exact ih (shorter.trans small) leads step behind

end Json

namespace Sql.Payload

/-- The most bytes that a text in the database can have under any configuration. -/
def byteLimit : Nat := 0x7FFFFFFF

theorem isAddressable_of_byteLimit {value part : Json} {path : List Segment}
    (fits : (Text.utf8Bytes value.render).length ≤ byteLimit)
    (found : value.follow? path = some part) : ∀ step ∈ path, step.IsAddressable := by
  apply Json.isAddressable_of_follow? _ found
  calc value.text.length = value.render.toList.length := by rw [Json.render, String.toList_ofList]
    _ ≤ (Text.utf8Bytes value.render).length := Text.length_le_length_utf8Bytes value.render
    _ ≤ byteLimit := fits
    _ ≤ Json.Node.positionModulus := by decide

end Sql.Payload

end TransactionLedger
