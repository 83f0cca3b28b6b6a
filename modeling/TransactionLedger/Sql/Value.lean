import TransactionLedger.Decimal.Binary64
import TransactionLedger.Text.Utf8

/-!
# Values of the database

A value is null, an integer, a number of the binary format or infinity, a text, or bytes. Numbers
come before texts and texts before bytes; numbers compare exactly, whatever their form, texts by
their characters, and null compares with nothing.
-/

namespace TransactionLedger.Sql

/-- A value of the database. -/
inductive Value
  | null
  | integer (value : Int)
  | real (value : Decimal.Binary64)
  /-- A number beyond all numbers of the binary format. -/
  | infinite (negative : Bool)
  | text (value : String)
  | blob (bytes : List UInt8)
  deriving DecidableEq, Repr

namespace Value

/-- How two texts compare: the characters decide from left to right. -/
def textOrder (x y : String) : Ordering :=
  if x < y then .lt else if x = y then .eq else .gt

/-- How two strings of bytes compare. -/
def blobOrder : List UInt8 → List UInt8 → Ordering
  | [], [] => .eq
  | [], _ :: _ => .lt
  | _ :: _, [] => .gt
  | x :: xs, y :: ys => if x < y then .lt else if y < x then .gt else blobOrder xs ys

/-- How infinity compares with a number that is less far from zero. -/
def infiniteOrder (negative : Bool) : Ordering :=
  if negative then .lt else .gt

/-- The place of a value's kind in the order of kinds; null has none. -/
def kindRank? : Value → Option Nat
  | null => none
  | integer _ => some 0
  | real _ => some 0
  | infinite _ => some 0
  | text _ => some 1
  | blob _ => some 2

/-- How two values compare; null compares with nothing. -/
def order? : Value → Value → Option Ordering
  | integer x, integer y => some (compare x y)
  | integer x, real y => some (y.orderInt x).swap
  | real x, integer y => some (x.orderInt y)
  | real x, real y => some (x.order y)
  | infinite x, infinite y =>
    some (if x = y then .eq else infiniteOrder x)
  | infinite x, integer _ => some (infiniteOrder x)
  | infinite x, real _ => some (infiniteOrder x)
  | integer _, infinite y => some (infiniteOrder y).swap
  | real _, infinite y => some (infiniteOrder y).swap
  | text x, text y => some (textOrder x y)
  | blob x, blob y => some (blobOrder x y)
  | x, y => do return compare (← x.kindRank?) (← y.kindRank?)

end Value

end TransactionLedger.Sql
