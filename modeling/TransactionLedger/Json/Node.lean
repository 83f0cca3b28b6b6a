import TransactionLedger.Json.Lexer

/-!
# Documents as far as they can be read

A node is a value of a document with its spellings, up to the first place where the document is
broken: an array or object that was cut short there is marked as not closed. So one tree serves all
readers of a document, and each of them meets the first problem on its own way through the tree.
-/

namespace TransactionLedger.Json

/-- A value of a document, as far as it can be read. -/
inductive Node
  | null
  | bool (value : Bool)
  | number (numeral : Numeral)
  | string (spelling : Source)
  | array (items : List Node) (closed : Bool)
  | object (members : List (Source × Node)) (closed : Bool)
  | broken
  deriving Repr

/-- The two ways of writing documents. The relaxed one allows a comma after the last item, and bare
words as keys. -/
inductive Dialect
  | strict
  | relaxed
  deriving DecidableEq, Repr

/-- What is expected next. -/
inductive Expectation
  /-- A value. -/
  | value
  /-- A value or the end of the array. -/
  | item
  /-- A key. -/
  | key
  /-- A key or the end of the object. -/
  | member
  /-- The colon behind a key. -/
  | colon (key : Source)
  /-- A comma or the end of what is open. -/
  | next
  deriving DecidableEq, Repr

/-- An array or object that is still open; what it holds so far is in reverse. -/
inductive Frame
  | array (items : List Node)
  | object (members : List (Source × Node))
  /-- An object whose last key still lacks its value. -/
  | pending (members : List (Source × Node)) (key : Source)
  deriving Repr

namespace Node

/-- Ends everything that is open at a broken place. -/
def abandon : Option Node → List Frame → Node
  | last, [] => last.getD .broken
  | last, .array items :: outer =>
    abandon (some (.array (items.reverse ++ last.toList) false)) outer
  | _, .object members :: outer => abandon (some (.object members.reverse false)) outer
  | last, .pending members key :: outer =>
    abandon (some (.object (members.reverse ++ [(key, last.getD .broken)]) false)) outer

/-- What a token leads to: something is still open, or the value is complete. -/
inductive Progress
  | openAt (expectation : Expectation) (frames : List Frame)
  | complete (node : Node)

/-- A value has been read. -/
def place (node : Node) : List Frame → Progress
  | [] => .complete node
  | .array items :: outer => .openAt .next (.array (node :: items) :: outer)
  | .pending members key :: outer => .openAt .next (.object ((key, node) :: members) :: outer)
  | .object members :: outer => .complete (abandon none (.object members :: outer))

/-- The value of a bare word: a constant, or infinity spelled as a number beyond all others. -/
def ofWord? (word : List Char) : Option Node :=
  let name := String.ofList (word.map Char.toLower)
  if word = ['t', 'r', 'u', 'e'] then some (.bool true)
  else if word = ['f', 'a', 'l', 's', 'e'] then some (.bool false)
  else if word = ['n', 'u', 'l', 'l'] then some .null
  else if name = "inf" ∨ name = "infinity" then
    some (.number (Numeral.infinite false))
  else if name = "nan" ∨ name = "qnan" ∨ name = "snan" then some .null
  else none

/-- The token begins a value, or is one. -/
def beginValue (frames : List Frame) : Token → Progress
  | .openBracket => .openAt .item (.array [] :: frames)
  | .openBrace => .openAt .member (.object [] :: frames)
  | .null => place .null frames
  | .bool value => place (.bool value) frames
  | .number numeral => place (.number numeral) frames
  | .string spelling => place (.string spelling) frames
  | .word spelling =>
    match ofWord? spelling with
    | some node => place node frames
    | none => .complete (abandon none frames)
  | _ => .complete (abandon none frames)

/-- The token is a key. -/
def beginMember (frames : List Frame) : Token → Progress
  | .string spelling => .openAt (.colon spelling) frames
  | .word spelling =>
    if (ofWord? (spelling.takeWhile Char.isAlphanum)).isSome then .complete (abandon none frames)
    else .openAt (.colon (Source.ofText spelling)) frames
  | _ => .complete (abandon none frames)

/-- What may follow a comma. -/
def afterComma (dialect : Dialect) : Frame → Expectation
  | .array _ => if dialect = .relaxed then .item else .value
  | _ => if dialect = .relaxed then .member else .key

/-- One more token. -/
def step (dialect : Dialect) : Expectation → List Frame → Token → Progress
  | .value, frames, token => beginValue frames token
  | .item, .array items :: outer, .closeBracket => place (.array items.reverse true) outer
  | .item, frames, token => beginValue frames token
  | .member, .object members :: outer, .closeBrace => place (.object members.reverse true) outer
  | .member, frames, token => beginMember frames token
  | .key, frames, token => beginMember frames token
  | .colon key, .object members :: outer, .colon => .openAt .value (.pending members key :: outer)
  | .colon key, .object members :: outer, _ =>
    .complete (abandon none (.pending members key :: outer))
  | .next, frame :: outer, .comma => .openAt (afterComma dialect frame) (frame :: outer)
  | .next, .array items :: outer, .closeBracket => place (.array items.reverse true) outer
  | .next, .object members :: outer, .closeBrace => place (.object members.reverse true) outer
  | _, frames, _ => .complete (abandon none frames)

/-- The document ends while something is open. -/
def cutShort : Expectation → List Frame → Node
  | .colon key, .object members :: outer => abandon none (.pending members key :: outer)
  | _, frames => abandon none frames

/-- Reads one value; the tokens behind it are given back. -/
def build (dialect : Dialect) (expectation : Expectation) (frames : List Frame) :
    List Token → Node × List Token
  | [] => (cutShort expectation frames, [])
  | token :: rest =>
    match step dialect expectation frames token with
    | .openAt expectation frames => build dialect expectation frames rest
    | .complete node => (node, rest)

mutual

/-- Nothing in the value is broken. -/
def isWhole : Node → Bool
  | array items closed => itemsWhole items && closed
  | object members closed => membersWhole members && closed
  | broken => false
  | _ => true

@[inherit_doc isWhole]
def itemsWhole : List Node → Bool
  | [] => true
  | item :: rest => item.isWhole && itemsWhole rest

@[inherit_doc isWhole]
def membersWhole : List (Source × Node) → Bool
  | [] => true
  | (_, value) :: rest => value.isWhole && membersWhole rest

end

end Node

/-- A document: its value, and whether anything follows the value. -/
structure Document where
  root : Node
  hasMore : Bool
  deriving Repr

/-- Reads a document in the strict dialect. -/
def Document.ofSource (source : Source) : Document :=
  let (root, rest) := Node.build .strict .value [] (tokens source)
  ⟨root, !rest.isEmpty⟩

/-- Reads a document from undamaged text. -/
def Document.ofText (text : String) : Document :=
  Document.ofSource (Source.ofText text.toList)

end TransactionLedger.Json
