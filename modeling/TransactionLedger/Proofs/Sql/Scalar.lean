import TransactionLedger.Filter.BindValue
import TransactionLedger.Proofs.Sql.Payload
import TransactionLedger.Sql.Evaluation

/-!
# The order of scalars

Scalars of one kind compare in the order of the kind, and values of different kinds do not compare.
The database keeps fewer kinds: booleans are numbers to it, and arrays and objects are texts. It
compares any two values other than null, numbers before texts, and agrees with the order of a kind
on texts, booleans and integers of 64 bits with a sign.
-/

namespace TransactionLedger

namespace Json

/-- How two numbers compare. -/
def Number.order : Number → Number → Ordering
  | integer x, integer y => compare x y
  | integer x, real y => (y.orderInt x).swap
  | real x, integer y => x.orderInt y
  | real x, real y => x.order y

/-- How two scalars of one kind compare; false comes before true. -/
def order? : Json → Json → Option Ordering
  | bool x, bool y => some (compare x y)
  | number x, number y => some (x.order y)
  | string x, string y => some (Sql.Value.textOrder x y)
  | _, _ => none

/-- How two values compare in the database. -/
def storedOrder? (x y : Json) : Option Ordering :=
  (Sql.Value.ofPart x).order? (Sql.Value.ofPart y)

/-- A text, a boolean or an integer of 64 bits with a sign. -/
def IsSimple : Json → Prop
  | string _ => True
  | bool _ => True
  | number (.integer n) => IsSigned n
  | _ => False

instance : DecidablePred IsSimple
  | string _ => isTrue trivial
  | bool _ => isTrue trivial
  | number (.integer n) => inferInstanceAs (Decidable (IsSigned n))
  | number (.real _) => isFalse id
  | null => isFalse id
  | array _ => isFalse id
  | object _ => isFalse id

theorem wellFormed_of_isSimple {value : Json} (simple : value.IsSimple) (room : Nat) :
    value.WellFormed room := by
  cases value with
  | array items => contradiction
  | object members => contradiction
  | _ => trivial

/-- The place of a value among the kinds that the database tells apart; null has none. -/
def storageRank? : Json → Option Nat
  | null => none
  | bool _ => some 0
  | number _ => some 0
  | string _ => some 1
  | array _ => some 1
  | object _ => some 1

theorem value_numeral {n : Int} (signed : IsSigned n) :
    Sql.Numeral.value (Number.integer n).numeral = .integer n := by
  cases n with
  | ofNat n =>
      have inside : IsSigned (n : Int) := signed
      simp [Number.numeral, Sql.Numeral.value, Numeral.isWhole, inside]
  | negSucc n =>
      have inside : IsSigned (-((n + 1 : Nat) : Int)) := signed
      simp only [Number.numeral, Sql.Numeral.value, Text.naturalOf_decimal, if_true]
      rw [if_pos ⟨rfl, inside⟩]
      rfl

/-- A simple value is bound as it is stored. -/
theorem ofBind_ofJson {value : Json} (simple : value.IsSimple) :
    Sql.Value.ofBind (.ofJson value) = Sql.Value.ofPart value := by
  cases value with
  | string value => rfl
  | bool value => rfl
  | number value =>
      cases value with
      | integer n =>
          have signed : IsSigned n := simple
          simp [Filter.BindValue.ofJson, Filter.BindValue.ofNumber, signed, Sql.Value.ofBind,
            Sql.Value.ofPart, value_numeral signed]
      | real x => contradiction
  | null => contradiction
  | array items => contradiction
  | object members => contradiction

/-- The database compares simple values of one kind in the order of the kind. -/
theorem storedOrder?_of_order? {x y : Json} {ordering : Ordering} (simple : x.IsSimple)
    (otherSimple : y.IsSimple) (compared : x.order? y = some ordering) :
    x.storedOrder? y = some ordering := by
  cases x with
  | bool x =>
      cases y with
      | bool y =>
          rw [← compared]
          cases x <;> cases y <;> rfl
      | _ => contradiction
  | string x =>
      cases y with
      | string y => exact compared
      | _ => contradiction
  | number x =>
      cases y with
      | number y =>
          cases x with
          | real x => contradiction
          | integer n =>
              cases y with
              | real y => contradiction
              | integer m =>
                  rw [storedOrder?, Sql.Value.ofPart, Sql.Value.ofPart, value_numeral simple,
                    value_numeral otherSimple]
                  exact compared
      | _ => contradiction
  | null => contradiction
  | array items => contradiction
  | object members => contradiction

theorem kindRank?_scaledValue (negative : Bool) (significand : Nat) (power : Int) :
    (Sql.Numeral.scaledValue negative significand power).kindRank? = some 0 := by
  simp only [Sql.Numeral.scaledValue]
  split <;> rfl

theorem kindRank?_realValue (numeral : Numeral) :
    (Sql.Numeral.realValue numeral).kindRank? = some 0 := by
  simp only [Sql.Numeral.realValue]
  split_ifs
  · rfl
  · exact kindRank?_scaledValue _ _ _
  · exact kindRank?_scaledValue _ _ _

theorem kindRank?_ofPart (value : Json) :
    (Sql.Value.ofPart value).kindRank? = value.storageRank? := by
  cases value with
  | number value =>
      simp only [Sql.Value.ofPart, Sql.Numeral.value]
      split_ifs
      · rfl
      · exact kindRank?_realValue _
      · rfl
      · exact kindRank?_realValue _
  | _ => rfl

end Json

/-- Values of different kinds compare as the kinds do. -/
theorem Sql.Value.order?_of_kindRank? {x y : Sql.Value} {rank other : Nat}
    (ranked : x.kindRank? = some rank) (otherRanked : y.kindRank? = some other)
    (different : rank ≠ other) : x.order? y = some (compare rank other) := by
  cases x <;> cases y <;> simp_all [kindRank?, order?]

namespace Json

/-- Numbers and booleans come before strings, arrays and objects in the database. -/
theorem storedOrder?_of_storageRank? {x y : Json} {rank other : Nat}
    (ranked : x.storageRank? = some rank) (otherRanked : y.storageRank? = some other)
    (different : rank ≠ other) : x.storedOrder? y = some (compare rank other) := by
  rw [← kindRank?_ofPart] at ranked otherRanked
  exact Sql.Value.order?_of_kindRank? ranked otherRanked different

end Json

end TransactionLedger
