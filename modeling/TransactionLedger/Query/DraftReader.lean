import TransactionLedger.Json.Shape
import TransactionLedger.Query.Draft

/-!
# Reading drafts

A draft is an object that states a combination of two drafts or, failing that, a comparison. Members
with other names do not matter, but none of the members that make up a form may come twice. The
whole value is read as free-form JSON first, so a malformed part is reported as such wherever it
stands.
-/

namespace TransactionLedger.Query

open Json

namespace Draft

/-- What the error calls a draft. -/
def documentName : String := "DataQueryExpressionDto"

/-- The parts of a combination found so far. -/
structure Sides where
  lhs : Option Draft := none
  operator : Option String := none
  rhs : Option Draft := none

/-- The parts of a comparison found so far. -/
structure Terms where
  field : Option String := none
  operator : Option String := none
  value : Option Json := none

/-- The combination, if no part is missing. -/
def Sides.finish? : Sides → Option Draft
  | ⟨some lhs, some operator, some rhs⟩ => some (combination lhs operator rhs)
  | _ => none

/-- The comparison, if no part is missing; a missing value is null. -/
def Terms.finish? : Terms → Option Draft
  | ⟨some field, some operator, value⟩ => some (comparison field operator (value.getD .null))
  | _ => none

/-- The text of a string, unless the node is something else. -/
def stringOf? : Node → Option String
  | .string spelling => spelledText? spelling
  | _ => none

/-- The value of a node whose form has been checked. -/
def valueOf? (node : Node) : Option Json :=
  match node.readValue Node.nestingLimit with
  | .ok value => some value
  | .error _ => none

/-- Puts a part in an empty place. -/
def fill {α : Type} (place : Option α) (part : Option α) : Option (Option α) :=
  match place, part with
  | none, some part => some (some part)
  | _, _ => none

/-- The parts of a comparison among the members of an object. -/
def terms? (done : Terms) : List (Source × Node) → Option Terms
  | [] => some done
  | (key, value) :: rest => do
    let key ← spelledText? key
    if key = "field" then
      terms? { done with field := ← fill done.field (stringOf? value) } rest
    else if key = "operator" then
      terms? { done with operator := ← fill done.operator (stringOf? value) } rest
    else if key = "value" then
      terms? { done with value := ← fill done.value (valueOf? value) } rest
    else terms? done rest

mutual

/-- The draft that a node states. -/
def ofNode? : Node → Option Draft
  | .object members _ =>
    match (sides? {} members).bind Sides.finish? with
    | some draft => some draft
    | none => (terms? {} members).bind Terms.finish?
  | _ => none

/-- The parts of a combination among the members of an object. -/
def sides? (done : Sides) : List (Source × Node) → Option Sides
  | [] => some done
  | (key, value) :: rest => do
    let key ← spelledText? key
    if key = "lhs" then
      sides? { done with lhs := ← fill done.lhs (ofNode? value) } rest
    else if key = "operator" then
      sides? { done with operator := ← fill done.operator (stringOf? value) } rest
    else if key = "rhs" then
      sides? { done with rhs := ← fill done.rhs (ofNode? value) } rest
    else sides? done rest

end

def read (room : Nat) (node : Node) : Reading Draft := do
  let _ ← node.readValue room
  match ofNode? node with
  | some draft => return draft
  | none => Reading.misshapen (.noAlternative documentName)

/-- Reads a text that holds a draft and nothing else. -/
def parse (text : String) : Reading Draft :=
  (Document.ofText text).readAll (read Node.nestingLimit)

end Draft

end TransactionLedger.Query
