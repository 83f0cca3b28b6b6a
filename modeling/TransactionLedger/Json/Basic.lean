import TransactionLedger.Decimal.Binary64

/-!
# JSON values

A number is an integer of 64 bits, signed or unsigned, or a number of the 64-bit binary format; the
two are told apart by how they are written. An object lists its members in the order in which they
are printed; free-form objects keep theirs in ascending order of the keys.
-/

namespace TransactionLedger

/-- A JSON number. -/
inductive Json.Number
  | integer (value : Int)
  | real (value : Decimal.Binary64)
  deriving DecidableEq, Repr

/-- A JSON value. -/
inductive Json
  | null
  | bool (value : Bool)
  | number (value : Json.Number)
  | string (value : String)
  | array (items : List Json)
  | object (members : List (String × Json))
  deriving Repr

namespace Json

/-- The members of an object. -/
abbrev Members := List (String × Json)

/-- The integers that a document can hold. -/
def IsInteger (n : Int) : Prop :=
  -0x8000000000000000 ≤ n ∧ n < 0x10000000000000000

instance (n : Int) : Decidable (IsInteger n) :=
  inferInstanceAs (Decidable (_ ∧ _))

/-- The integers of 64 bits with a sign. -/
def IsSigned (n : Int) : Prop :=
  -0x8000000000000000 ≤ n ∧ n < 0x8000000000000000

instance (n : Int) : Decidable (IsSigned n) :=
  inferInstanceAs (Decidable (_ ∧ _))

/-- Strings, numbers and booleans. -/
def isScalar : Json → Bool
  | bool _ => true
  | number _ => true
  | string _ => true
  | _ => false

namespace Members

/-- Puts a member in its place in the order of keys; a member of the same key is replaced. -/
def insert (key : String) (value : Json) : Members → Members
  | [] => [(key, value)]
  | (other, present) :: rest =>
    if key < other then (key, value) :: (other, present) :: rest
    else if key = other then (key, value) :: rest
    else (other, present) :: insert key value rest

/-- The value of the first member with a key. -/
def get? (key : String) (members : Members) : Option Json :=
  (members.find? fun member => member.1 == key).map Prod.snd

/-- What was put under a key is found there, and nothing else has changed. -/
theorem get?_insert (key other : String) (value : Json) (members : Members) :
    get? other (insert key value members) =
      if other = key then some value else get? other members := by
  induction members with
  | nil =>
    by_cases same : other = key
    · simp [insert, get?, same]
    · have different : (key == other) = false := by simpa using fun h => same h.symm
      simp [insert, get?, same, different]
  | cons member rest ih =>
    obtain ⟨present, current⟩ := member
    simp only [insert]
    split
    · by_cases same : other = key
      · simp [get?, same]
      · have different : (key == other) = false := by simpa using fun h => same h.symm
        simp [get?, same, different]
    · split
      · rename_i equal
        subst equal
        by_cases same : other = key
        · simp [get?, same]
        · have different : (key == other) = false := by simpa using fun h => same h.symm
          simp [get?, same, different]
      · rename_i unequal
        by_cases here : present = other
        · have notKey : other ≠ key := fun h => unequal (h ▸ here.symm)
          simp [get?, here, notKey]
        · have different : (present == other) = false := by simpa using here
          simpa [get?, different] using ih

end Members

end Json

end TransactionLedger
