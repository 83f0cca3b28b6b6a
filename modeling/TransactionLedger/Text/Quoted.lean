import TransactionLedger.Text.Digits
import TransactionLedger.Text.Printable

/-!
# Quoted text in diagnostics

A text between quotes, in which every character that is not visible on its own is named by its
number in hexadecimal digits.
-/

namespace TransactionLedger.Text

/-- How a character is written between the quotes. -/
def diagnosticChar (c : Char) : List Char :=
  if c = '\x00' then ['\\', '0']
  else if c = '\t' then ['\\', 't']
  else if c = '\r' then ['\\', 'r']
  else if c = '\n' then ['\\', 'n']
  else if c = '"' then ['\\', '"']
  else if c = '\\' then ['\\', '\\']
  else if isPrintable c then [c]
  else '\\' :: 'u' :: '{' :: Nat.toDigits 16 c.toNat ++ ['}']

/-- A text as diagnostics show it. -/
def diagnostic (text : String) : String :=
  String.ofList ('"' :: text.toList.flatMap diagnosticChar ++ ['"'])

end TransactionLedger.Text
