import TransactionLedger.Text.Digits

/-!
# Field paths

A field path leads from a payload to one of its parts: an identifier, then any number of segments,
each a dot with an identifier or an index in brackets. The path keeps its index digits as written,
so printing the segments gives back the text that was read.
-/

namespace TransactionLedger.Query

/-- The characters an identifier may start with. -/
def isIdentifierStart (c : Char) : Bool :=
  ('A' ≤ c && c ≤ 'Z') || ('a' ≤ c && c ≤ 'z') || c == '_'

/-- The characters an identifier may go on with. -/
def isIdentifierPart (c : Char) : Bool :=
  isIdentifierStart c || Text.isDigit c

/-- An ASCII identifier: a letter or underscore, then letters, underscores and digits. -/
def isIdentifier : List Char → Bool
  | [] => false
  | c :: rest => isIdentifierStart c && rest.all isIdentifierPart

/-- One or more digits. -/
def isNumeral (text : List Char) : Bool :=
  !text.isEmpty && text.all Text.isDigit

/-- The name of a member. -/
abbrev Identifier := { name : List Char // isIdentifier name = true }

/-- The digits of an index, as written. -/
abbrev Numeral := { digits : List Char // isNumeral digits = true }

/-- One step of a path. -/
inductive Segment
  | member (name : Identifier)
  | element (digits : Numeral)
  deriving DecidableEq, Repr

namespace Segment

/-- The text of a step. -/
def text : Segment → List Char
  | member name => '.' :: name.val
  | element digits => '[' :: digits.val ++ [']']

/-- The step that a separator and the run of characters behind it spell. -/
def ofPiece? : Char × List Char → Option Segment
  | (separator, run) =>
    if separator = '.' then
      if named : isIdentifier run then some (member ⟨run, named⟩) else none
    else if run.getLast? = some ']' then
      if numbered : isNumeral run.dropLast then some (element ⟨run.dropLast, numbered⟩) else none
    else none

end Segment

/-- A path: the name of a member of the payload, then further steps. -/
structure FieldPath where
  head : Identifier
  segments : List Segment
  deriving DecidableEq, Repr

namespace FieldPath

def text (path : FieldPath) : List Char :=
  path.head.val ++ path.segments.flatMap Segment.text

def toString (path : FieldPath) : String :=
  String.ofList path.text

/-- A path as it is written in a filter, from the root of the payload. -/
def rooted (path : FieldPath) : String :=
  String.ofList ('$' :: '.' :: path.text)

/-- Every step of a path; the head is a member of the payload itself. -/
def steps (path : FieldPath) : List Segment :=
  .member path.head :: path.segments

/-- Cuts a text before each separator: the run in front, then each separator with its run. -/
def cut : List Char → List Char × List (Char × List Char)
  | [] => ([], [])
  | c :: rest =>
    let (run, pieces) := cut rest
    if c = '.' || c = '[' then ([], (c, run) :: pieces) else (c :: run, pieces)

/-- Reads a path from its text, without a leading `$.`. -/
def ofText? (text : List Char) : Option FieldPath :=
  let (head, pieces) := cut text
  if named : isIdentifier head then
    (pieces.mapM Segment.ofPiece?).map (FieldPath.mk ⟨head, named⟩)
  else none

/-- Removes one leading `$.`. -/
def withoutRoot : List Char → List Char
  | '$' :: '.' :: rest => rest
  | text => text

/-- Reads a path; one leading `$.` is allowed. -/
def parse? (text : String) : Option FieldPath :=
  ofText? (withoutRoot text.toList)

/-- The pieces of a text, put together again. -/
def join (head : List Char) (pieces : List (Char × List Char)) : List Char :=
  head ++ pieces.flatMap fun piece => piece.1 :: piece.2

/-- Cutting loses nothing. -/
theorem join_cut (text : List Char) : join (cut text).1 (cut text).2 = text := by
  induction text with
  | nil => rfl
  | cons c rest ih =>
    simp only [cut]
    split
    · simpa [join] using ih
    · simpa [join] using ih

end FieldPath

end TransactionLedger.Query
