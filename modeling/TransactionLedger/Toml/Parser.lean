import TransactionLedger.Toml.Assembly
import TransactionLedger.Toml.Number
import TransactionLedger.Toml.Quoted

/-!
# Reading TOML documents

A document is a list of lines, each a header, an assignment or empty. The first fault in the order
of the text is reported, be it a statement that cannot be read or one that does not fit the
statements in front of it.
-/

namespace TransactionLedger.Toml

/-- The characters of a key without quotes. -/
def isKeyChar (c : Char) : Bool :=
  c.isAlphanum || c == '_' || c == '-'

def scanKeyPart : Scan String
  | '"' :: rest => lineString '"' ('"' :: rest)
  | '\'' :: rest => lineString '\'' ('\'' :: rest)
  | text =>
    let name := text.takeWhile isKeyChar
    if name.isEmpty then faultAt text
    else .ok (String.ofList name, text.drop name.length)

/-- A key with its parts, read with some fuel, which the length of the text bounds. -/
def scanKeyParts : Nat → Scan (List String)
  | 0, text => faultAt text
  | fuel + 1, text => do
    let (part, text) ← scanKeyPart (skipBlanks text)
    match skipBlanks text with
    | '.' :: rest =>
      let (more, text) ← scanKeyParts fuel rest
      return (part :: more, text)
    | text => return ([part], text)

/-- A key: the path to a table and the name in the table. -/
def scanKey : Scan (List String × String) := fun text => do
  let (parts, rest) ← scanKeyParts text.length text
  match parts.getLast? with
  | some last => return ((parts.dropLast, last), rest)
  | none => faultAt text

/-- Skips blanks, comments and line ends, with some fuel, which the length of the text bounds. -/
def skipLines : Nat → List Char → List Char
  | 0, text => text
  | fuel + 1, text =>
    match skipBlanks text with
    | '\n' :: rest => skipLines fuel rest
    | '\r' :: '\n' :: rest => skipLines fuel rest
    | '#' :: rest => skipLines fuel (rest.dropWhile isCommentChar)
    | text => text

/-- The items of an array up to the closing bracket, with some fuel. -/
def scanItems (scanItem : Scan Value) : Nat → Scan (List Value)
  | 0, text => faultAt text
  | fuel + 1, text =>
    match skipLines text.length text with
    | ']' :: rest => .ok ([], rest)
    | text => do
      let (item, text) ← scanItem text
      match skipLines text.length text with
      | ',' :: rest =>
        let (more, text) ← scanItems scanItem fuel rest
        return (item :: more, text)
      | ']' :: rest => return ([item], rest)
      | text => faultAt text

/-- An assignment: key, equals sign and value. -/
def scanAssignment (scanItem : Scan Value) : Scan ((List String × String) × Value) := fun text => do
  let (key, text) ← scanKey text
  let text ← expect '=' text
  let (value, text) ← scanItem (skipBlanks text)
  return ((key, value), text)

/-- The assignments of a table between braces, with some fuel. -/
def scanAssignments (scanItem : Scan Value) :
    Nat → Scan (List ((List String × String) × Value))
  | 0, text => faultAt text
  | fuel + 1, text => do
    let (first, text) ← scanAssignment scanItem text
    match skipBlanks text with
    | ',' :: rest =>
      let (more, text) ← scanAssignments scanItem fuel rest
      return (first :: more, text)
    | '}' :: rest => return ([first], rest)
    | text => faultAt text

/-- Builds a table from its assignments. -/
def assignAll? (place : Nat) (table : Table) :
    List ((List String × String) × Value) → Option Table
  | [] => some table
  | ((path, key), value) :: rest => do
    assignAll? place (← table.assign? place path key value) rest

/-- A table between braces; the opening one has been read. -/
def scanInline (scanItem : Scan Value) (place : Nat) : Scan Value := fun text =>
  match skipBlanks text with
  | '}' :: rest => .ok (.table place .inline [], rest)
  | _ => do
    let (assignments, rest) ← scanAssignments scanItem text.length text
    match assignAll? place ⟨place, .headed, []⟩ assignments with
    | some table => return (.table place .inline table.members, rest)
    | none => faultAt text

/-- A given word as a value. -/
def scanWord (word : List Char) (value : Value) : Scan Value := fun text =>
  if text.take word.length = word then .ok (value, text.drop word.length) else faultAt text

/-- The deepest nesting of arrays and tables between braces. -/
def nestingLimit : Nat := 79

/-- A value in a document of a given length, with room for some more levels of nesting. -/
def scanValue (total : Nat) : Nat → Scan Value
  | room, text =>
    let place := total - text.length
    match text with
    | '"' :: _ => do
      let (value, rest) ← quotedString '"' text
      return (.string place value, rest)
    | '\'' :: _ => do
      let (value, rest) ← quotedString '\'' text
      return (.string place value, rest)
    | '[' :: rest =>
      match room with
      | 0 => faultAt text
      | room + 1 => do
        let (items, rest) ← scanItems (scanValue total room) rest.length.succ rest
        return (.array place items, rest)
    | '{' :: rest =>
      match room with
      | 0 => faultAt text
      | room + 1 => scanInline (scanValue total room) place rest
    | 't' :: _ => scanWord ['t', 'r', 'u', 'e'] (.bool place true) text
    | 'f' :: _ => scanWord ['f', 'a', 'l', 's', 'e'] (.bool place false) text
    | 'i' :: _ => scanWord ['i', 'n', 'f'] (.float place) text
    | 'n' :: _ => scanWord ['n', 'a', 'n'] (.float place) text
    | c :: _ =>
      if Text.isDigit c || c == '+' || c == '-' then scanNumber place text else faultAt text
    | [] => .error 0

/-- A header line; its opening brackets have been read. -/
def scanHeader (closing : List Char) : Scan (List String × String) := fun text => do
  let (key, text) ← scanKey text
  let text ← closing.foldlM (fun text c => expect c text) text
  return (key, ← closeLine text)

/-- A line with a statement. -/
def scanStatement (total : Nat) : Scan Statement := fun text =>
  let place := total - text.length
  match text with
  | '[' :: '[' :: rest => do
    let ((path, key), rest) ← scanHeader [']', ']'] rest
    return (.arrayHeader place path key, rest)
  | '[' :: rest => do
    let ((path, key), rest) ← scanHeader [']'] rest
    return (.header place path key, rest)
  | _ => do
    let (((path, key), value), rest) ← scanAssignment (scanValue total nestingLimit) text
    return (.assign place path key value, ← closeLine rest)

/-- The statements of a text up to the first fault, with some fuel, which the length of the text
bounds. -/
def scanStatements (total : Nat) : Nat → List Char → List Statement × Option Fault
  | 0, text => ([], if text.isEmpty then none else some text.length)
  | fuel + 1, text =>
    match skipBlanks text with
    | [] => ([], none)
    | '#' :: rest =>
      match endLine (skipComment ('#' :: rest)) with
      | .ok rest => scanStatements total fuel rest
      | .error fault => ([], some fault)
    | '\n' :: rest => scanStatements total fuel rest
    | '\r' :: '\n' :: rest => scanStatements total fuel rest
    | text =>
      match scanStatement total text with
      | .error fault => ([], some fault)
      | .ok (statement, rest) =>
        let (more, fault) := scanStatements total fuel rest
        (statement :: more, fault)

/-- The characters of a document without a byte order mark. -/
def withoutMark : List Char → List Char
  | '\uFEFF' :: rest => rest
  | text => text

/-- Reads a document; the place of the first fault is given back, counted from the start. -/
def parse (document : String) : Except Nat Members :=
  let total := document.length
  let text := withoutMark document.toList
  let (statements, fault) := scanStatements total (text.length + 1) text
  match Draft.empty.addAll statements, fault with
  | .error place, _ => .error place
  | .ok _, some fault => .error (total - fault)
  | .ok draft, none => .ok draft.root.members

/-- The line and the column of a place, counted from one. The end of the document counts as the
place behind its last character. In front of a character beyond ASCII the column counts bytes. -/
def lineAndColumn (document : String) (place : Nat) : Nat × Nat :=
  let text := document.toList
  if text.isEmpty then (1, place + 1)
  else
    let index := min place (text.length - 1)
    let before := text.take index
    let line := before.count '\n'
    let inLine := before.reverse.takeWhile (· ≠ '\n')
    let column :=
      if (text[place]?).any fun c => 0x80 ≤ c.toNat then (String.ofList inLine).utf8ByteSize
      else inLine.length
    (line + 1, column + (place - index) + 1)

end TransactionLedger.Toml
