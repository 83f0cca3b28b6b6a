import TransactionLedger.Proofs.Decimal.Order
import TransactionLedger.Proofs.Json.NumeralValue
import TransactionLedger.Proofs.Sql.Scalar
import TransactionLedger.Proofs.Text.ByteOrder

/-!
# The order within a kind

False comes before true, numbers are in the order of the rational numbers that they stand for, and
strings in that of their bytes. The database takes a text, a boolean or an integer of 64 bits with a
sign out of a payload and compares it in this order with every bound value of the same kind,
although an integer that needs 64 bits without a sign is bound as a rounded number.
-/

namespace TransactionLedger

open Decimal Sql

namespace Json

/-- The rational number that a number stands for. -/
def Number.value : Number → ℚ
  | integer n => n
  | real x => x.value

/-- The two values are of one kind, and the first comes before the second. -/
inductive Before : Json → Json → Prop
  | bool : Before (bool false) (bool true)
  | number {x y : Number} : x.value < y.value → Before (number x) (number y)
  | string {x y : String} : Text.utf8Bytes x < Text.utf8Bytes y → Before (string x) (string y)

/-- The two values are of one kind, and neither comes before the other. -/
inductive Level : Json → Json → Prop
  | bool (x : Bool) : Level (bool x) (bool x)
  | number {x y : Number} : x.value = y.value → Level (number x) (number y)
  | string (x : String) : Level (string x) (string x)

end Json

namespace Sql.Value

theorem order?_integer (n m : Int) :
    (integer n).order? (integer m) = some (compare (n : ℚ) (m : ℚ)) := by
  have sameOrder : compare n m = compare (n : ℚ) (m : ℚ) :=
    compare_eq_compare Int.cast_lt.symm Int.cast_lt.symm
  exact congrArg some sameOrder

theorem order?_real (n : Int) (x : Binary64) :
    (integer n).order? (real x) = some (compare (n : ℚ) x.value) := by
  have swapped : (x.orderInt n).swap = compare (n : ℚ) x.value := by
    rw [Binary64.orderInt_eq]
    exact Std.OrientedCmp.eq_swap.symm
  exact congrArg some swapped

theorem textOrder_of_lt {x y : String} (less : x < y) : textOrder x y = .lt := by
  rw [textOrder, if_pos less]

theorem textOrder_of_gt {x y : String} (more : y < x) : textOrder x y = .gt := by
  rw [textOrder, if_neg (String.lt_asymm more), if_neg (ne_of_gt more)]

theorem textOrder_self (x : String) : textOrder x x = .eq := by
  simp [textOrder]

end Sql.Value

namespace Json

variable {part value : Json}

/-- An integer without a place among those with a sign is above them, and so is what it is rounded
to. -/
theorem exists_ofNumber_of_not_isSigned {m : Int} (inside : IsInteger m) (unsigned : ¬IsSigned m) :
    ∃ x : Binary64, Filter.BindValue.ofNumber (.integer m) = .real x ∧ (2 : ℚ) ^ (63 : Int) ≤ x.value
      ∧ (2 : ℚ) ^ (63 : Int) ≤ m := by
  have large : 0x8000000000000000 ≤ m := by
    by_contra small
    exact unsigned ⟨inside.1, not_le.mp small⟩
  obtain ⟨n, rfl⟩ := Int.eq_ofNat_of_zero_le (le_trans (by decide) large)
  have least : 2 ^ 63 ≤ n := by omega
  have most : n < 2 ^ 64 := by
    have bounded := inside.2
    omega
  have fits : n ≤ Numeral.limit := by
    simp only [Numeral.limit]
    omega
  rcases Numeral.ofNat?_of_le_limit fits with ⟨x, rounded, -⟩
  refine ⟨x, ?_, Binary64.two_pow_le_value_of_ofNat? least most rounded, by exact_mod_cast least⟩
  simp [Filter.BindValue.ofNumber, unsigned, rounded]

/-- An integer of 64 bits with a sign compares with a bound number as what the two stand for. -/
theorem order?_ofNumber {n : Int} (signed : IsSigned n) {number : Number} (valid : number.Valid) :
    (Value.integer n).order? (.ofBind (.ofNumber number)) =
      some (compare (n : ℚ) number.value) := by
  cases number with
  | real x => exact Value.order?_real n x
  | integer m =>
      by_cases otherSigned : IsSigned m
      · rw [Filter.BindValue.ofNumber, if_pos otherSigned]
        exact Value.order?_integer n m
      -- The other integer and what it is rounded to are both above all integers with a sign.
      · rcases exists_ofNumber_of_not_isSigned valid otherSigned with ⟨x, bound, above, otherAbove⟩
        have below : (n : ℚ) < 2 ^ (63 : Int) := by exact_mod_cast signed.2
        have less : compare (n : ℚ) x.value = .lt := compare_lt_iff_lt.mpr (below.trans_le above)
        have otherLess : compare (n : ℚ) m = .lt := compare_lt_iff_lt.mpr (below.trans_le otherAbove)
        rw [bound, Number.value, otherLess, ← less]
        exact Value.order?_real n x

theorem order?_number {x y : Number} (simple : (number x).IsSimple) (valid : y.Valid) :
    (Value.ofPart (number x)).order? (.ofBind (.ofJson (number y))) =
      some (compare x.value y.value) := by
  cases x with
  | real x => contradiction
  | integer n =>
      have stored : Value.ofPart (number (.integer n)) = .integer n := value_numeral simple
      rw [stored]
      exact order?_ofNumber simple valid

section Bound

variable (simple : part.IsSimple) (valid : value.EveryNumber Number.Valid)
include simple valid

/-- A simple part that comes before a bound value is less in the database. -/
theorem Before.order?_lt (before : part.Before value) :
    (Value.ofPart part).order? (.ofBind (.ofJson value)) = some .lt := by
  cases before with
  | bool => rfl
  | string less => exact congrArg some (Value.textOrder_of_lt (Text.utf8Bytes_lt_iff.mp less))
  | number less =>
      rw [order?_number simple valid]
      exact congrArg some (compare_lt_iff_lt.mpr less)

/-- A simple part that a bound value comes before is greater in the database. -/
theorem Before.order?_gt (behind : value.Before part) :
    (Value.ofPart part).order? (.ofBind (.ofJson value)) = some .gt := by
  cases behind with
  | bool => rfl
  | string more => exact congrArg some (Value.textOrder_of_gt (Text.utf8Bytes_lt_iff.mp more))
  | number more =>
      rw [order?_number simple valid]
      exact congrArg some (compare_gt_iff_gt.mpr more)

/-- A simple part that is level with a bound value is equal to it in the database. -/
theorem Level.order?_eq (level : part.Level value) :
    (Value.ofPart part).order? (.ofBind (.ofJson value)) = some .eq := by
  cases level with
  | bool x => cases x <;> rfl
  | string x => exact congrArg some (Value.textOrder_self x)
  | number same =>
      rw [order?_number simple valid]
      exact congrArg some (compare_eq_iff_eq.mpr same)

end Bound

end Json

end TransactionLedger
