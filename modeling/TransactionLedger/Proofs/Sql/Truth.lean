import TransactionLedger.Proofs.Outcome
import TransactionLedger.Sql.Evaluation

/-!
# Three-valued evaluation

A comparison with null is unknown, and so is a combination that its known sides do not decide. A
row passes a condition that is true; there is no difference between false and unknown. A condition
has no truth value if one of its tests fails. Where it has one, the evaluation of the database,
which stops as soon as the result is decided, agrees with it.
-/

namespace TransactionLedger

open TransactionLedger.Filter Sql

namespace Sql

/-- A truth value; `none` is unknown. -/
abbrev Truth := Option Bool

namespace Truth

/-- Conjunction: false if one side is false, else unknown if one side is unknown. -/
def both : Truth → Truth → Truth
  | some false, _ => some false
  | _, some false => some false
  | some true, some true => some true
  | _, _ => none

/-- Disjunction: true if one side is true, else unknown if one side is unknown. -/
def either : Truth → Truth → Truth
  | some true, _ => some true
  | _, some true => some true
  | some false, some false => some false
  | _, _ => none

/-- The value is true. -/
def isTrue (truth : Truth) : Bool :=
  truth == some true

@[simp]
theorem isTrue_both (lhs rhs : Truth) : (lhs.both rhs).isTrue = (lhs.isTrue && rhs.isTrue) := by
  rcases lhs with _ | _ | _ <;> rcases rhs with _ | _ | _ <;> rfl

@[simp]
theorem isTrue_either (lhs rhs : Truth) :
    (lhs.either rhs).isTrue = (lhs.isTrue || rhs.isTrue) := by
  rcases lhs with _ | _ | _ <;> rcases rhs with _ | _ | _ <;> rfl

end Truth

end Sql

namespace Filter

namespace Relation

/-- Whether two values compare in one of the given ways; unknown if one of them is null. -/
def orderTruth (accepted : List Ordering) (lhs rhs : Value) : Truth :=
  (lhs.order? rhs).map accepted.contains

/-- Whether the value matches the pattern; unknown if one of them is null. -/
def likeTruth (value pattern : Value) : Except SqlError Truth :=
  match pattern.textForm? with
  | none => .ok none
  | some pattern =>
    if Pattern.byteLimit < (String.ofList pattern).utf8ByteSize then .error .patternTooComplex
    else .ok (value.textForm?.map fun text => Pattern.accepts pattern text)

/-- Whether the relation holds between two values. -/
def truth : Relation → Value → Value → Except SqlError Truth
  | equal, lhs, rhs => .ok (orderTruth [.eq] lhs rhs)
  | greater, lhs, rhs => .ok (orderTruth [.gt] lhs rhs)
  | less, lhs, rhs => .ok (orderTruth [.lt] lhs rhs)
  | atLeast, lhs, rhs => .ok (orderTruth [.gt, .eq] lhs rhs)
  | atMost, lhs, rhs => .ok (orderTruth [.lt, .eq] lhs rhs)
  | like, lhs, rhs => likeTruth lhs rhs

theorem orderIn_eq (accepted : List Ordering) (lhs rhs : Value) :
    orderIn accepted lhs rhs = (orderTruth accepted lhs rhs).isTrue := by
  simp only [orderIn, orderTruth]
  cases lhs.order? rhs <;> simp [Truth.isTrue]

theorem likeHolds_of_truth {value pattern : Value} {truth : Truth}
    (known : likeTruth value pattern = .ok truth) : likeHolds value pattern = .ok truth.isTrue := by
  simp only [likeTruth] at known
  simp only [likeHolds]
  cases form : pattern.textForm? with
  | none =>
      simp only [form, Except.ok.injEq] at known
      simp [← known, Truth.isTrue]
  | some pattern =>
      simp only [form] at known ⊢
      split at known
      · cases known
      · rename_i short
        rw [if_neg short, ← Except.ok.inj known]
        cases value.textForm? <;> simp [Truth.isTrue]

theorem holds_of_truth {relation : Relation} {lhs rhs : Value} {truth : Truth}
    (known : relation.truth lhs rhs = .ok truth) : relation.holds lhs rhs = .ok truth.isTrue := by
  cases relation with
  | like => exact likeHolds_of_truth known
  | _ =>
      rw [← Except.ok.inj known]
      simp only [holds, orderIn_eq]

end Relation

/-- Whether the value is one of those listed. -/
def isOneOfTruth (scope : Scope) (value : Value) : List Operand → Except SqlError Truth
  | [] => .ok (some false)
  | choice :: rest => do
    let first ← Relation.equal.truth value (← choice.evaluate scope)
    return first.either (← isOneOfTruth scope value rest)

/-- Whether the condition holds in a row. -/
def Condition.truth (scope : Scope) : Condition → Except SqlError Truth
  | compare lhs relation rhs => do relation.truth (← lhs.evaluate scope) (← rhs.evaluate scope)
  | between subject low high => do
    let value ← subject.evaluate scope
    let aboveLow ← Relation.atLeast.truth value (← low.evaluate scope)
    return aboveLow.both (← Relation.atMost.truth value (← high.evaluate scope))
  | oneOf subject choices => do isOneOfTruth scope (← subject.evaluate scope) choices
  | both lhs rhs => do return (← lhs.truth scope).both (← rhs.truth scope)
  | either lhs rhs => do return (← lhs.truth scope).either (← rhs.truth scope)
  | group inner => inner.truth scope

theorem isOneOf_of_truth {scope : Scope} {value : Value} {choices : List Operand} {truth : Truth}
    (known : isOneOfTruth scope value choices = .ok truth) :
    isOneOf scope value choices = .ok truth.isTrue := by
  induction choices generalizing truth with
  | nil =>
      rw [← Except.ok.inj known]
      rfl
  | cons choice rest ih =>
      simp only [isOneOfTruth, bind_eq_ok_iff, pure_eq_ok, Except.ok.injEq] at known
      rcases known with ⟨other, evaluates, first, firstKnown, more, restKnown, rfl⟩
      simp only [isOneOf, evaluates, ok_bind, Relation.holds_of_truth firstKnown, ih restKnown]
      cases decided : first.isTrue <;> simp [decided]

namespace Condition

/-- Where a condition has a truth value, the database finds whether it is true. -/
theorem holds_of_truth {scope : Scope} {condition : Condition} {truth : Truth}
    (known : condition.truth scope = .ok truth) : condition.holds scope = .ok truth.isTrue := by
  induction condition generalizing truth with
  | compare lhs relation rhs =>
      simp only [Condition.truth, bind_eq_ok_iff] at known
      rcases known with ⟨left, leftEvaluates, right, rightEvaluates, known⟩
      simp only [holds, leftEvaluates, rightEvaluates, ok_bind, Relation.holds_of_truth known]
  | between subject low high =>
      simp only [Condition.truth, bind_eq_ok_iff, pure_eq_ok, Except.ok.injEq] at known
      rcases known with ⟨value, evaluates, least, lowEvaluates, aboveLow, lowKnown, greatest,
        highEvaluates, belowHigh, highKnown, rfl⟩
      simp only [holds, evaluates, lowEvaluates, highEvaluates, ok_bind,
        Relation.holds_of_truth lowKnown, Relation.holds_of_truth highKnown]
      cases decided : aboveLow.isTrue <;> simp [decided]
  | oneOf subject choices =>
      simp only [Condition.truth, bind_eq_ok_iff] at known
      rcases known with ⟨value, evaluates, known⟩
      simp only [holds, evaluates, ok_bind, isOneOf_of_truth known]
  | both lhs rhs ihLeft ihRight =>
      simp only [Condition.truth, bind_eq_ok_iff, pure_eq_ok, Except.ok.injEq] at known
      rcases known with ⟨left, leftKnown, right, rightKnown, rfl⟩
      simp only [holds, ihLeft leftKnown, ihRight rightKnown, ok_bind]
      cases decided : left.isTrue <;> simp [decided]
  | either lhs rhs ihLeft ihRight =>
      simp only [Condition.truth, bind_eq_ok_iff, pure_eq_ok, Except.ok.injEq] at known
      rcases known with ⟨left, leftKnown, right, rightKnown, rfl⟩
      simp only [holds, ihLeft leftKnown, ihRight rightKnown, ok_bind]
      cases decided : left.isTrue <;> simp [decided]
  | group inner ih => exact ih known

end Condition

end Filter

end TransactionLedger
