import TransactionLedger.Json.Printer

/-!
# Bound values

The values that placeholders stand for. A JSON value is bound as the value that a search finds in
its place in a payload: booleans are the integers one and zero, and arrays and objects are their
text.
-/

namespace TransactionLedger.Filter

/-- A value bound to a placeholder. -/
inductive BindValue
  | null
  | integer (value : Int)
  | real (value : Decimal.Binary64)
  | text (value : String)
  deriving DecidableEq, Repr

namespace BindValue

/-- The value of a number: an integer beyond 64 bits with a sign is rounded. -/
def ofNumber : Json.Number → BindValue
  | .integer value =>
    if Json.IsSigned value then integer value
    else match Decimal.Binary64.ofNat? value.toNat with
      | some rounded => real rounded
      | none => null
  | .real value => real value

/-- The value that a JSON value is bound as. -/
def ofJson : Json → BindValue
  | .null => null
  | .bool value => integer (if value then 1 else 0)
  | .number value => ofNumber value
  | .string value => text value
  | .array items => text (Json.array items).render
  | .object members => text (Json.object members).render

end BindValue

end TransactionLedger.Filter
