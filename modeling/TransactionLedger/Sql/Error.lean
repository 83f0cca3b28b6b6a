import TransactionLedger.Text.Digits

/-!
# Errors of the database

Why the database refuses a statement, and the texts under which this is reported.
-/

namespace TransactionLedger.Sql

/-- An error of the database. -/
inductive SqlError
  | stackOverflow
  | tooManyVariables (statement : String) (offset : Nat)
  | missingTable (name : String)
  | malformedPayload
  | patternTooComplex
  | duplicateKey (column : String)
  | exhausted
  /-- A selected column holds bytes in place of a text. -/
  | bytesInColumn (position : Nat) (name : String)
  deriving DecidableEq, Repr

namespace SqlError

def message : SqlError → String
  | stackOverflow => "parser stack overflow"
  | tooManyVariables statement offset =>
    "too many SQL variables in " ++ statement ++ " at offset " ++
      String.ofList (Text.decimal offset)
  | missingTable name => "no such table: " ++ name
  | malformedPayload => "malformed JSON"
  | patternTooComplex => "LIKE or GLOB pattern too complex"
  | duplicateKey column => "UNIQUE constraint failed: " ++ column
  | exhausted => "database or disk is full"
  | bytesInColumn position name =>
    "Invalid column type Blob at index: " ++ String.ofList (Text.decimal position) ++ ", name: " ++
      name

end SqlError

end TransactionLedger.Sql
