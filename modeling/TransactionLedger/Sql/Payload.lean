import TransactionLedger.Json.RelaxedLexer
import TransactionLedger.Json.RelaxedSpelling
import TransactionLedger.Query.FieldPath
import TransactionLedger.Sql.Number

/-!
# Parts of stored payloads

A payload is stored as text in the relaxed dialect of JSON. A path is followed from its root: a
member is the first one with the name, as far as the keys are compared, and an element is the one at
the position. The value of a part is a value of the database; arrays and objects are their text
without blanks, in the order in which they are stored.
-/

namespace TransactionLedger.Json

/-- Texts with a separator between. -/
def separated (separator : Char) : List (List Char) → List Char
  | [] => []
  | [last] => last
  | first :: second :: rest => first ++ separator :: separated separator (second :: rest)

namespace Node

mutual

/-- The levels of arrays and objects. -/
def depth : Node → Nat
  | array items _ => itemsDepth items + 1
  | object members _ => membersDepth members + 1
  | _ => 0

@[inherit_doc depth]
def itemsDepth : List Node → Nat
  | [] => 0
  | item :: rest => max item.depth (itemsDepth rest)

@[inherit_doc depth]
def membersDepth : List (Source × Node) → Nat
  | [] => 0
  | (_, value) :: rest => max value.depth (membersDepth rest)

end

/-- A spelling as a string of the strict dialect. -/
def spelledString (spelling : Source) : List Char :=
  '"' :: strictSpelling spelling ++ ['"']

mutual

/-- The text of a value without blanks. -/
def compactText : Node → List Char
  | null => ['n', 'u', 'l', 'l']
  | bool true => ['t', 'r', 'u', 'e']
  | bool false => ['f', 'a', 'l', 's', 'e']
  | number numeral => numeral.text
  | string spelling => spelledString spelling
  | array items _ => '[' :: separated ',' (itemTexts items) ++ [']']
  | object members _ => '{' :: separated ',' (memberTexts members) ++ ['}']
  | broken => []

/-- The texts of the items of an array. -/
def itemTexts : List Node → List (List Char)
  | [] => []
  | item :: rest => item.compactText :: itemTexts rest

/-- The texts of the members of an object. -/
def memberTexts : List (Source × Node) → List (List Char)
  | [] => []
  | (key, value) :: rest => (spelledString key ++ ':' :: value.compactText) :: memberTexts rest

end

/-- A position has 32 bits; larger numbers wrap around. -/
def positionModulus : Nat := 0x100000000

/-- What is compared of a key: a NUL ends it, whatever stands behind. -/
def comparedKey (key : List Char) : List Char :=
  key.takeWhile (· != '\x00')

/-- The part that one step leads to. -/
def child? : Query.Segment → Node → Option Node
  | .member name, object members _ =>
    (members.find? fun member => comparedKey (relaxedText member.1) == name.val).map Prod.snd
  | .element digits, array items _ => items[Text.naturalOf digits.val % positionModulus]?
  | _, _ => none

/-- The part that a path leads to. -/
def descend? : List Query.Segment → Node → Option Node
  | [], node => some node
  | step :: rest, node => (node.child? step).bind (descend? rest)

end Node

end TransactionLedger.Json

namespace TransactionLedger.Sql

open Json

/-- The value of a part of a payload in the database. -/
def Value.ofNode : Node → Value
  | .null => .null
  | .bool value => .integer (if value then 1 else 0)
  | .number numeral => Numeral.value numeral
  | .string spelling => .text (String.ofList (relaxedText spelling))
  | .broken => .null
  | node => .text (String.ofList node.compactText)

namespace Payload

/-- The deepest nesting of a payload. -/
def depthLimit : Nat := 1000

/-- The root of a payload in text form; nothing if the text is malformed. -/
def root? (text : String) : Option Node :=
  let document := Document.ofRelaxedText text
  if document.root.isWhole && !document.hasMore && document.root.depth ≤ depthLimit then
    some document.root
  else none

/-- A number of several bytes, the most significant one first. -/
def ofBytes (bytes : List UInt8) : Nat :=
  bytes.foldl (fun value byte => value * 256 + byte.toNat) 0

/-- The bytes that give the size of a binary payload when the size code does not. -/
def sizeBytes (code : Nat) : Nat :=
  if code ≤ 11 then 0 else if code = 12 then 1 else if code = 13 then 2 else if code = 14 then 4 else 8

/-- The bytes have the head of a binary payload, with a kind, and a size that agrees. Only an empty
object or a payload of another kind is taken. -/
def isBinary : List UInt8 → Bool
  | [] => false
  | head :: rest =>
    let kind := head.toNat % 16
    let code := head.toNat / 16
    let width := sizeBytes code
    let size := if code ≤ 11 then code else ofBytes (rest.take width)
    kind ≤ 12 && width ≤ rest.length && size + width == rest.length &&
      (2 < kind || size == 0) && (kind < 12 || size == 0)

/-- The part of a payload that a path leads to; nothing if the payload is malformed. A part that
does not exist is null, and so is every part of a binary payload. -/
def part? (path : List Query.Segment) : Value → Option Value
  | .null => some .null
  | .blob bytes => if isBinary bytes then some .null else none
  | value => do
    let root ← root? (String.ofList (value.textForm?.getD []))
    match root.descend? path with
    | some node => return Value.ofNode node
    | none => return .null

end Payload

end TransactionLedger.Sql
