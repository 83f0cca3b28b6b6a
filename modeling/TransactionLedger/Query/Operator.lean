import TransactionLedger.Text.Blank
import TransactionLedger.Text.Capital

/-!
# Operators

The operators that a search expression may use. A name is recognised with blanks around it and in
any case; nothing outside these two lists ever reaches a filter.
-/

namespace TransactionLedger.Query

/-- What a leaf does with the field and the value. -/
inductive Operator
  | equal
  | greater
  | less
  | like
  | between
  deriving DecidableEq, Repr

/-- How two expressions are joined. -/
inductive Combinator
  | conjunction
  | disjunction
  deriving DecidableEq, Repr

/-- A name without surrounding blanks, in capitals. -/
def canonicalName (name : String) : List Char :=
  Text.capitals (Text.trim name.toList)

namespace Operator

/-- The operator's name in a filter. -/
def symbol : Operator → String
  | equal => "="
  | greater => ">"
  | less => "<"
  | like => "LIKE"
  | between => "BETWEEN"

/-- Every operator. -/
def all : List Operator :=
  [equal, greater, less, like, between]

/-- The operator that a name stands for. -/
def ofName? (name : String) : Option Operator :=
  all.find? fun operator => canonicalName name == operator.symbol.toList

end Operator

namespace Combinator

/-- The combinator's name in a filter. -/
def symbol : Combinator → String
  | conjunction => "AND"
  | disjunction => "OR"

/-- Every combinator. -/
def all : List Combinator :=
  [conjunction, disjunction]

/-- The combinator that a name stands for. -/
def ofName? (name : String) : Option Combinator :=
  all.find? fun combinator => canonicalName name == combinator.symbol.toList

end Combinator

end TransactionLedger.Query
