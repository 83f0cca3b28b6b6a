import TransactionLedger.Proofs.Json.RelaxedDocument
import TransactionLedger.Proofs.Json.Roundtrip
import TransactionLedger.Sql.Payload

/-!
# Parts of printed payloads

The part of a printed payload to which a path leads is found in the payload itself: members by their
names, elements by their positions, as far as the database compares keys and counts positions. Its
value is that of the part: texts as they are, booleans as one and zero, arrays and objects as their
text.
-/

namespace TransactionLedger.Json

/-! ## Spellings -/

/-- A printed character is read as the character, and its spelling is kept. -/
theorem nextRelaxed_escaped (c : Char) (rest : Source) :
    nextRelaxed (Source.ofText (escaped c) ++ rest) = some ([c], escaped c, rest) := by
  rcases escaped_cases c with
    ⟨letter, written, simple, same⟩ | ⟨written, control⟩ | ⟨written, plain⟩
  · rw [written, ← same]
    simp only [Lexer.isSimpleEscape, Bool.or_eq_true, beq_iff_eq] at simple
    rcases simple with ((((((rfl | rfl) | rfl) | rfl) | rfl) | rfl) | rfl) | rfl <;> rfl
  · rcases hexPadded_control control with ⟨first, second, third, fourth, digits, read⟩
    have notLow : isLowSurrogate c.toNat = false := by
      simp [isLowSurrogate]
      omega
    have notHigh : isHighSurrogate c.toNat = false := by
      simp [isHighSurrogate]
      omega
    rw [written, digits]
    simp [nextRelaxed, read, notLow, notHigh, unitChar]
  · rcases plain with ⟨unquoted, visible, -⟩
    rw [written]
    simp [nextRelaxed, visible]

theorem escaped_ne_nil (c : Char) : escaped c ≠ [] := by
  rcases escaped_cases c with ⟨letter, written, -⟩ | ⟨written, -⟩ | ⟨written, -⟩ <;> simp [written]

theorem relaxedOnto_escapes (text denoted spelled : List Char) {fuel : Nat}
    (enough : text.length ≤ fuel) :
    relaxedOnto denoted spelled fuel (Source.ofText (text.flatMap escaped)) =
      (denoted.reverse ++ text, spelled.reverse ++ text.flatMap escaped) := by
  induction text generalizing denoted spelled fuel with
  | nil => cases fuel <;> simp [relaxedOnto, nextRelaxed]
  | cons c text ih =>
      cases fuel with
      | zero => contradiction
      | succ fuel =>
          have fits : text.length ≤ fuel := Nat.le_of_succ_le_succ enough
          simp [relaxedOnto, nextRelaxed_escaped, ih _ _ fits]

theorem length_le_length_spelling (text : String) :
    text.toList.length ≤ (spelling text).length := by
  rw [spelling, Source.ofText, List.length_map]
  induction text.toList with
  | nil => rfl
  | cons c text ih =>
      have longer := List.length_pos_of_ne_nil (escaped_ne_nil c)
      rw [List.flatMap_cons, List.length_append, List.length_cons]
      omega

@[simp]
theorem relaxedText_spelling (text : String) : relaxedText (spelling text) = text.toList := by
  have read := relaxedOnto_escapes text.toList [] [] (length_le_length_spelling text)
  rw [relaxedText, spelling]
  exact congrArg Prod.fst read

@[simp]
theorem spelledString_spelling (text : String) :
    Node.spelledString (spelling text) = quoted text := by
  have read := relaxedOnto_escapes text.toList [] [] (length_le_length_spelling text)
  rw [Node.spelledString, strictSpelling, spelling]
  exact congrArg (fun both => '"' :: both.2 ++ ['"']) read

/-! ## The nodes of values -/

theorem itemNodes_eq_map (items : List Json) : itemNodes items = items.map node := by
  induction items with
  | nil => rfl
  | cons item rest ih => rw [itemNodes, ih, List.map_cons]

theorem memberNodes_eq_map (members : List (String × Json)) :
    memberNodes members = members.map fun member => (spelling member.1, member.2.node) := by
  induction members with
  | nil => rfl
  | cons member rest ih =>
      rcases member with ⟨key, value⟩
      rw [memberNodes, ih, List.map_cons]

mutual

theorem isWhole_node (value : Json) : value.node.isWhole = true := by
  cases value with
  | array items => simp [node, Node.isWhole, itemsWhole_itemNodes items]
  | object members => simp [node, Node.isWhole, membersWhole_memberNodes members]
  | _ => rfl

theorem itemsWhole_itemNodes (items : List Json) : Node.itemsWhole (itemNodes items) = true := by
  cases items with
  | nil => rfl
  | cons item rest =>
      simp [itemNodes, Node.itemsWhole, isWhole_node item, itemsWhole_itemNodes rest]

theorem membersWhole_memberNodes (members : List (String × Json)) :
    Node.membersWhole (memberNodes members) = true := by
  cases members with
  | nil => rfl
  | cons member rest =>
      rcases member with ⟨key, value⟩
      simp [memberNodes, Node.membersWhole, isWhole_node value, membersWhole_memberNodes rest]

end

mutual

theorem depth_node_le {room : Nat} (value : Json) (wellFormed : value.WellFormed room) :
    value.node.depth ≤ room := by
  cases value with
  | array items =>
      have inside := itemsDepth_le items wellFormed.2
      simp only [node, Node.depth]
      have positive := wellFormed.1
      omega
  | object members =>
      have inside := membersDepth_le members wellFormed.2.2
      simp only [node, Node.depth]
      have positive := wellFormed.1
      omega
  | _ => exact Nat.zero_le room

theorem itemsDepth_le {room : Nat} (items : List Json) (wellFormed : itemsWellFormed room items) :
    Node.itemsDepth (itemNodes items) ≤ room := by
  cases items with
  | nil => exact Nat.zero_le room
  | cons item rest =>
      exact Nat.max_le.mpr ⟨depth_node_le item wellFormed.1, itemsDepth_le rest wellFormed.2⟩

theorem membersDepth_le {room : Nat} (members : List (String × Json))
    (wellFormed : membersWellFormed room members) :
    Node.membersDepth (memberNodes members) ≤ room := by
  cases members with
  | nil => exact Nat.zero_le room
  | cons member rest =>
      rcases member with ⟨key, value⟩
      exact Nat.max_le.mpr ⟨depth_node_le value wellFormed.1, membersDepth_le rest wellFormed.2⟩

end

/-- Texts behind the first one each stand behind the separator. -/
theorem separated_cons (separator : Char) (first : List Char) (rest : List (List Char)) :
    separated separator (first :: rest) = first ++ rest.flatMap (separator :: ·) := by
  induction rest generalizing first with
  | nil => simp [separated]
  | cons second rest ih => simp [separated, ih]

mutual

/-- The text of a value without blanks is the text that was printed. -/
theorem compactText_node (value : Json) : value.node.compactText = value.text := by
  cases value with
  | bool value => cases value <;> rfl
  | number value => exact value.text_numeral
  | string value => exact spelledString_spelling value
  | array items =>
      cases items with
      | nil => rfl
      | cons item rest =>
          simp [node, itemNodes, Node.compactText, Node.itemTexts, separated_cons, text, itemsText,
            compactText_node item, ← furtherItemsText_eq rest]
  | object members =>
      cases members with
      | nil => rfl
      | cons member rest =>
          rcases member with ⟨key, value⟩
          simp [node, memberNodes, Node.compactText, Node.memberTexts, separated_cons, text,
            membersText, compactText_node value, ← furtherMembersText_eq rest]
  | null => rfl

theorem furtherItemsText_eq (items : List Json) :
    (Node.itemTexts (itemNodes items)).flatMap (',' :: ·) ++ [']'] = furtherItemsText items := by
  cases items with
  | nil => rfl
  | cons item rest =>
      simp [itemNodes, Node.itemTexts, furtherItemsText, compactText_node item,
        ← furtherItemsText_eq rest]

theorem furtherMembersText_eq (members : List (String × Json)) :
    (Node.memberTexts (memberNodes members)).flatMap (',' :: ·) ++ ['}'] =
      furtherMembersText members := by
  cases members with
  | nil => rfl
  | cons member rest =>
      rcases member with ⟨key, value⟩
      simp [memberNodes, Node.memberTexts, furtherMembersText, compactText_node value,
        ← furtherMembersText_eq rest]

end

/-! ## Paths -/

/-- The part that one step leads to: the first member with the name, or the element at the
position. -/
def child? : Query.Segment → Json → Option Json
  | .member name, object members => Members.get? (String.ofList name.val) members
  | .element digits, array items => items[Text.naturalOf digits.val]?
  | _, _ => none

/-- The part that a path leads to. -/
def follow? : List Query.Segment → Json → Option Json
  | [], value => some value
  | step :: rest, value => (value.child? step).bind (follow? rest)

/-- The part to which one step leads in the database: a key is compared up to its first NUL, and
positions wrap around. -/
def storedChild? : Query.Segment → Json → Option Json
  | .member name, object members =>
    (members.find? fun member => Node.comparedKey member.1.toList == name.val).map Prod.snd
  | .element digits, array items => items[Text.naturalOf digits.val % Node.positionModulus]?
  | _, _ => none

/-- The part to which a path leads in the database. -/
def storedFollow? : List Query.Segment → Json → Option Json
  | [], value => some value
  | step :: rest, value => (value.storedChild? step).bind (storedFollow? rest)

theorem child?_node (step : Query.Segment) (value : Json) :
    value.node.child? step = (value.storedChild? step).map node := by
  cases step with
  | member name =>
      cases value with
      | object members =>
          simp only [node, Node.child?, storedChild?, memberNodes_eq_map, List.find?_map,
            Function.comp_def, relaxedText_spelling, Option.map_map]
      | _ => rfl
  | element digits =>
      cases value with
      | array items => simp [node, Node.child?, storedChild?, itemNodes_eq_map]
      | _ => rfl

theorem descend?_node (path : List Query.Segment) (value : Json) :
    value.node.descend? path = (value.storedFollow? path).map node := by
  induction path generalizing value with
  | nil => rfl
  | cons step rest ih =>
      rw [Node.descend?, storedFollow?, child?_node]
      cases value.storedChild? step with
      | none => rfl
      | some part => exact ih part

end TransactionLedger.Json

namespace TransactionLedger

open Json

/-! ## Values of parts -/

namespace Sql

/-- The value of a part of a payload in the database. -/
def Value.ofPart : Json → Value
  | .null => .null
  | .bool value => .integer (if value then 1 else 0)
  | .number value => Numeral.value value.numeral
  | .string value => .text value
  | .array items => .text (Json.array items).render
  | .object members => .text (Json.object members).render

theorem ofNode_node (value : Json) : Value.ofNode value.node = Value.ofPart value := by
  cases value with
  | string value => simp [node, Value.ofNode, Value.ofPart]
  | array items =>
      exact congrArg (fun text => Value.text (String.ofList text)) (compactText_node (.array items))
  | object members =>
      exact congrArg (fun text => Value.text (String.ofList text))
        (compactText_node (.object members))
  | _ => rfl

theorem root?_render {room : Nat} {value : Json} (wellFormed : value.WellFormed room)
    (shallow : room ≤ Payload.depthLimit) : Payload.root? value.render = some value.node := by
  have depth : value.node.depth ≤ Payload.depthLimit :=
    (depth_node_le value wellFormed).trans shallow
  simp [Payload.root?, ofRelaxedText_render, isWhole_node, depth]

/-- The part of a printed payload that a path leads to is the value of the part of the payload; a
part that does not exist is null. -/
theorem part?_render {room : Nat} {value : Json} (wellFormed : value.WellFormed room)
    (shallow : room ≤ Payload.depthLimit) (path : List Query.Segment) :
    Payload.part? path (.text value.render) =
      some ((value.storedFollow? path).elim .null Value.ofPart) := by
  have root : Payload.root? (String.ofList value.render.toList) = some value.node := by
    rw [String.ofList_toList, root?_render wellFormed shallow]
  simp only [Payload.part?, Value.textForm?, Option.getD_some, root, Option.bind_eq_bind,
    Option.bind_some, descend?_node]
  cases value.storedFollow? path with
  | none => rfl
  | some part => exact congrArg some (ofNode_node part)

end Sql

end TransactionLedger
