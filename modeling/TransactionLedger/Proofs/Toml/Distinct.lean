import Mathlib.Data.List.Nodup
import Mathlib.Tactic.SplitIfs
import TransactionLedger.Proofs.Outcome
import TransactionLedger.Toml.Parser

/-!
# Every key has one value

A document is built by statements none of which assigns a key that has a value already. So no table
that is read from a document, at any depth, has two members under one key.
-/

namespace TransactionLedger.Toml

/-! ## Values without duplicates -/

mutual

/-- No table in the value has two members under one key. -/
def Value.Distinct : Value → Prop
  | .array _ items => itemsDistinct items
  | .table _ _ members => (members.map Prod.fst).Nodup ∧ membersDistinct members
  | .tables _ items => itemsDistinct items
  | _ => True

@[inherit_doc Value.Distinct]
def itemsDistinct : List Value → Prop
  | [] => True
  | item :: rest => item.Distinct ∧ itemsDistinct rest

@[inherit_doc Value.Distinct]
def membersDistinct : List (String × Value) → Prop
  | [] => True
  | (_, value) :: rest => value.Distinct ∧ membersDistinct rest

end

theorem itemsDistinct_iff {items : List Value} :
    itemsDistinct items ↔ ∀ item ∈ items, item.Distinct := by
  induction items with
  | nil => simp [itemsDistinct]
  | cons item rest ih => simp [itemsDistinct, ih]

theorem membersDistinct_iff {members : Members} :
    membersDistinct members ↔ ∀ member ∈ members, member.2.Distinct := by
  induction members with
  | nil => simp [membersDistinct]
  | cons member rest ih => simp [membersDistinct, ih]

/-- The members of a table have different keys, and so have those of all tables within. -/
def Members.Distinct (members : Members) : Prop :=
  (members.map Prod.fst).Nodup ∧ ∀ member ∈ members, member.2.Distinct

theorem distinct_table_iff {place : Nat} {kind : TableKind} {members : Members} :
    (Value.table place kind members).Distinct ↔ members.Distinct := by
  rw [Value.Distinct, membersDistinct_iff]
  exact Iff.rfl

theorem distinct_tables_iff {place : Nat} {items : List Value} :
    (Value.tables place items).Distinct ↔ ∀ item ∈ items, item.Distinct := by
  rw [Value.Distinct, itemsDistinct_iff]

theorem distinct_array_iff {place : Nat} {items : List Value} :
    (Value.array place items).Distinct ↔ ∀ item ∈ items, item.Distinct := by
  rw [Value.Distinct, itemsDistinct_iff]

@[simp]
theorem Members.distinct_nil : Members.Distinct [] := by
  simp [Members.Distinct]

/-! ## Tables under construction -/

namespace Table

variable {table changed : Table} {key : String} {value : Value}

theorem mem_of_find? (found : table.find? key = some value) :
    (key, value) ∈ table.members := by
  rcases Option.map_eq_some_iff.mp found with ⟨member, located, rfl⟩
  have named := List.find?_some located
  rw [beq_iff_eq] at named
  rw [← named]
  exact List.mem_of_find?_eq_some located

theorem ne_of_find?_none (missing : table.find? key = none) :
    ∀ member ∈ table.members, member.1 ≠ key := by
  simpa [find?] using missing

theorem distinct_add (distinct : table.members.Distinct) (missing : table.find? key = none)
    (valueDistinct : value.Distinct) : (table.add key value).members.Distinct := by
  have fresh := ne_of_find?_none missing
  constructor
  · rw [add, List.map_append, List.nodup_append]
    refine ⟨distinct.1, by simp, ?_⟩
    intro name inside other single
    rcases List.mem_map.mp inside with ⟨member, here, rfl⟩
    rcases List.mem_singleton.mp single with rfl
    exact fresh member here
  · intro member inside
    rcases List.mem_append.mp inside with old | new
    · exact distinct.2 member old
    · rcases List.mem_singleton.mp new with rfl
      exact valueDistinct

theorem distinct_replace (distinct : table.members.Distinct) (valueDistinct : value.Distinct) :
    (table.replace key value).members.Distinct := by
  have keys : (table.replace key value).members.map Prod.fst = table.members.map Prod.fst := by
    rw [replace, List.map_map]
    apply List.map_congr_left
    intro member _
    by_cases same : member.1 = key <;> simp [same]
  refine ⟨keys ▸ distinct.1, ?_⟩
  intro member inside
  rcases List.mem_map.mp inside with ⟨old, here, rfl⟩
  split_ifs
  · exact valueDistinct
  · exact distinct.2 old here

/-- A change at the end of a path keeps the keys distinct if the change itself does. -/
theorem distinct_changeAt? {byDots : Bool} {place : Nat} {change : Table → Option Table}
    (keeps : ∀ before after, change before = some after → before.members.Distinct →
      after.members.Distinct)
    {path : List String} (distinct : table.members.Distinct)
    (made : changeAt? byDots place change path table = some changed) :
    changed.members.Distinct := by
  induction path generalizing table changed with
  | nil => exact keeps table changed made distinct
  | cons key rest ih =>
      unfold changeAt? at made
      split at made
      case h_1 missing =>
        simp only [Option.bind_eq_bind, Option.bind_eq_some_iff, Option.pure_def,
          Option.some.injEq] at made
        rcases made with ⟨child, childMade, rfl⟩
        exact distinct_add distinct missing
          (distinct_table_iff.mpr (ih Members.distinct_nil childMade))
      case h_2 start kind members found =>
        split_ifs at made
        simp only [Option.bind_eq_bind, Option.bind_eq_some_iff, Option.pure_def,
          Option.some.injEq] at made
        rcases made with ⟨child, childMade, rfl⟩
        have inner := distinct_table_iff.mp (distinct.2 _ (mem_of_find? found))
        exact distinct_replace distinct (distinct_table_iff.mpr (ih inner childMade))
      case h_3 start items found =>
        split at made
        case h_1 inner kind members last =>
          split_ifs at made
          simp only [Option.bind_eq_bind, Option.bind_eq_some_iff, Option.pure_def,
            Option.some.injEq] at made
          rcases made with ⟨child, childMade, rfl⟩
          have each := distinct_tables_iff.mp (distinct.2 _ (mem_of_find? found))
          have inside := each _ (List.mem_of_getLast? last)
          refine distinct_replace distinct (distinct_tables_iff.mpr ?_)
          intro item here
          rcases List.mem_append.mp here with front | back
          · exact each item (List.dropLast_subset _ front)
          · rcases List.mem_singleton.mp back with rfl
            exact distinct_table_iff.mpr (ih (distinct_table_iff.mp inside) childMade)
        case h_2 => cases made
      case h_4 => cases made

theorem distinct_assignHere? {throughDots : Bool} (valueDistinct : value.Distinct)
    (distinct : table.members.Distinct)
    (made : assignHere? throughDots key value table = some changed) :
    changed.members.Distinct := by
  unfold assignHere? at made
  split_ifs at made with _ taken
  rcases Option.some.inj made with rfl
  exact distinct_add distinct (by simpa using taken) valueDistinct

theorem distinct_assign? {place : Nat} {path : List String} (valueDistinct : value.Distinct)
    (distinct : table.members.Distinct)
    (made : assign? place path key value table = some changed) : changed.members.Distinct :=
  distinct_changeAt?
    (fun _ _ assigned before => distinct_assignHere? valueDistinct before assigned) distinct made

theorem distinct_openHere? {place : Nat} (distinct : table.members.Distinct)
    (made : openHere? place key table = some changed) : changed.members.Distinct := by
  unfold openHere? at made
  split at made
  case h_1 missing =>
    rcases Option.some.inj made with rfl
    exact distinct_add distinct missing (distinct_table_iff.mpr Members.distinct_nil)
  case h_2 found =>
    rcases Option.some.inj made with rfl
    have inner := distinct_table_iff.mp (distinct.2 _ (mem_of_find? found))
    exact distinct_replace distinct (distinct_table_iff.mpr inner)
  case h_3 => cases made

theorem distinct_extendHere? {place : Nat} (distinct : table.members.Distinct)
    (made : extendHere? place key table = some changed) : changed.members.Distinct := by
  have fresh : (Value.table place .headed []).Distinct :=
    distinct_table_iff.mpr Members.distinct_nil
  unfold extendHere? at made
  split at made
  case h_1 missing =>
    rcases Option.some.inj made with rfl
    refine distinct_add distinct missing (distinct_tables_iff.mpr ?_)
    simpa using fresh
  case h_2 found =>
    rcases Option.some.inj made with rfl
    have each := distinct_tables_iff.mp (distinct.2 _ (mem_of_find? found))
    refine distinct_replace distinct (distinct_tables_iff.mpr ?_)
    intro item inside
    rcases List.mem_append.mp inside with old | new
    · exact each item old
    · rcases List.mem_singleton.mp new with rfl
      exact fresh
  case h_3 => cases made

end Table

/-! ## Documents under construction -/

/-- The value that a statement assigns has distinct keys. -/
def Statement.Distinct : Statement → Prop
  | .assign _ _ _ value => value.Distinct
  | _ => True

namespace Draft

theorem distinct_add {draft behind : Draft} {statement : Statement}
    (distinct : draft.root.members.Distinct) (statementDistinct : statement.Distinct)
    (added : draft.add statement = .ok behind) : behind.root.members.Distinct := by
  cases statement with
  | assign place path key value =>
      simp only [add] at added
      split at added
      · rename_i root made
        rcases Except.ok.inj added with rfl
        exact Table.distinct_changeAt?
          (fun _ _ assigned before => Table.distinct_assign? statementDistinct before assigned)
          distinct made
      · cases added
  | header place path key =>
      simp only [add] at added
      split at added
      · rename_i root made
        rcases Except.ok.inj added with rfl
        exact Table.distinct_changeAt?
          (fun _ _ opened before => Table.distinct_openHere? before opened) distinct made
      · cases added
  | arrayHeader place path key =>
      simp only [add] at added
      split at added
      · rename_i root made
        rcases Except.ok.inj added with rfl
        exact Table.distinct_changeAt?
          (fun _ _ extended before => Table.distinct_extendHere? before extended) distinct made
      · cases added

theorem distinct_addAll {draft behind : Draft} {statements : List Statement}
    (distinct : draft.root.members.Distinct)
    (statementsDistinct : ∀ statement ∈ statements, statement.Distinct)
    (added : draft.addAll statements = .ok behind) : behind.root.members.Distinct := by
  induction statements generalizing draft with
  | nil =>
      rcases Except.ok.inj added with rfl
      exact distinct
  | cons statement rest ih =>
      rcases bind_eq_ok_iff.mp added with ⟨next, first, others⟩
      rcases List.forall_mem_cons.mp statementsDistinct with ⟨here, later⟩
      exact ih (distinct_add distinct here first) later others

end Draft

/-! ## Values as they are read -/

section Scanning

variable {scanItem : Scan Value}

/-- Everything that a scanner of values gives has distinct keys. -/
def GivesDistinct (scanItem : Scan Value) : Prop :=
  ∀ text value rest, scanItem text = .ok (value, rest) → value.Distinct

theorem distinct_scanItems (items : GivesDistinct scanItem) {fuel : Nat} {text rest : List Char}
    {values : List Value} (scanned : scanItems scanItem fuel text = .ok (values, rest)) :
    ∀ value ∈ values, value.Distinct := by
  induction fuel generalizing text rest values with
  | zero => cases scanned
  | succ fuel ih =>
      unfold scanItems at scanned
      split at scanned
      · rcases Except.ok.inj scanned with ⟨⟩
        simp
      · rcases bind_eq_ok_iff.mp scanned with ⟨⟨value, text⟩, first, scanned⟩
        have here := items _ _ _ first
        simp only at scanned
        split at scanned
        · rcases bind_eq_ok_iff.mp scanned with ⟨⟨more, text⟩, others, made⟩
          rcases Except.ok.inj made with ⟨⟩
          exact List.forall_mem_cons.mpr ⟨here, ih others⟩
        · rcases Except.ok.inj scanned with ⟨⟩
          simpa using here
        · cases scanned

theorem distinct_scanAssignment (items : GivesDistinct scanItem) {text rest : List Char}
    {key : List String × String} {value : Value}
    (scanned : scanAssignment scanItem text = .ok ((key, value), rest)) : value.Distinct := by
  simp only [scanAssignment, bind_eq_ok_iff, pure_eq_ok, Except.ok.injEq, Prod.mk.injEq] at scanned
  rcases scanned with ⟨_, -, _, -, found, first, ⟨-, rfl⟩, -⟩
  exact items _ _ _ first

theorem distinct_scanAssignments (items : GivesDistinct scanItem) {fuel : Nat}
    {text rest : List Char} {assignments : List ((List String × String) × Value)}
    (scanned : scanAssignments scanItem fuel text = .ok (assignments, rest)) :
    ∀ assignment ∈ assignments, assignment.2.Distinct := by
  induction fuel generalizing text rest assignments with
  | zero => cases scanned
  | succ fuel ih =>
      unfold scanAssignments at scanned
      rcases bind_eq_ok_iff.mp scanned with ⟨⟨first, text⟩, read, scanned⟩
      have here := distinct_scanAssignment items read
      simp only at scanned
      split at scanned
      · rcases bind_eq_ok_iff.mp scanned with ⟨⟨more, text⟩, others, made⟩
        rcases Except.ok.inj made with ⟨⟩
        exact List.forall_mem_cons.mpr ⟨here, ih others⟩
      · rcases Except.ok.inj scanned with ⟨⟩
        simpa using here
      · cases scanned

theorem distinct_assignAll? {place : Nat} {table made : Table}
    {assignments : List ((List String × String) × Value)} (distinct : table.members.Distinct)
    (values : ∀ assignment ∈ assignments, assignment.2.Distinct)
    (assigned : assignAll? place table assignments = some made) : made.members.Distinct := by
  induction assignments generalizing table with
  | nil =>
      rcases Option.some.inj assigned with rfl
      exact distinct
  | cons assignment rest ih =>
      rcases assignment with ⟨⟨path, key⟩, value⟩
      rcases List.forall_mem_cons.mp values with ⟨here, later⟩
      rcases Option.bind_eq_some_iff.mp assigned with ⟨next, first, others⟩
      exact ih (Table.distinct_assign? here distinct first) later others

theorem distinct_scanInline (items : GivesDistinct scanItem) {place : Nat} {text rest : List Char}
    {value : Value} (scanned : scanInline scanItem place text = .ok (value, rest)) :
    value.Distinct := by
  unfold scanInline at scanned
  split at scanned
  · rcases Except.ok.inj scanned with ⟨⟩
    exact distinct_table_iff.mpr Members.distinct_nil
  · rcases bind_eq_ok_iff.mp scanned with ⟨⟨assignments, text⟩, read, scanned⟩
    simp only at scanned
    split at scanned
    · rename_i table assigned
      rcases Except.ok.inj scanned with ⟨⟩
      exact distinct_table_iff.mpr (distinct_assignAll? Members.distinct_nil
        (distinct_scanAssignments items read) assigned)
    · cases scanned

end Scanning

theorem distinct_scanWord {word text rest : List Char} {value found : Value}
    (scanned : scanWord word value text = .ok (found, rest)) (simple : value.Distinct) :
    found.Distinct := by
  unfold scanWord at scanned
  split_ifs at scanned
  · rcases Except.ok.inj scanned with ⟨⟩
    exact simple
  · cases scanned

/-! ## Numbers and times hold no tables -/

section Numbers

variable {start text rest : List Char} {place : Nat} {value : Value}

theorem distinct_checkedInteger {number : Int}
    (checked : checkedInteger start place number text = .ok (value, rest)) : value.Distinct := by
  unfold checkedInteger at checked
  split_ifs at checked
  · rcases Except.ok.inj checked with ⟨⟩
    trivial
  · cases checked

theorem distinct_basedInteger {base : Nat} {isDigit : Char → Bool}
    (scanned : basedInteger start place base isDigit text = .ok (value, rest)) :
    value.Distinct := by
  rcases bind_eq_ok_iff.mp scanned with ⟨digits, -, checked⟩
  exact distinct_checkedInteger checked

theorem distinct_signedNumber {negative : Bool}
    (scanned : signedNumber start place negative text = .ok (value, rest)) : value.Distinct := by
  unfold signedNumber at scanned
  split at scanned
  · rcases Except.ok.inj scanned with ⟨⟩
    trivial
  · unfold decimalNumber at scanned
    rcases bind_eq_ok_iff.mp scanned with ⟨whole, -, scanned⟩
    rcases bind_eq_ok_iff.mp scanned with ⟨fraction, -, scanned⟩
    rcases bind_eq_ok_iff.mp scanned with ⟨exponent, -, scanned⟩
    simp only at scanned
    split at scanned
    · exact distinct_checkedInteger scanned
    · split_ifs at scanned
      · cases scanned
      · rcases Except.ok.inj scanned with ⟨⟩
        trivial

theorem distinct_scanNumber (scanned : scanNumber place text = .ok (value, rest)) :
    value.Distinct := by
  unfold scanNumber at scanned
  split_ifs at scanned
  · simp only [bind_eq_ok_iff, pure_eq_ok, Except.ok.injEq, Prod.mk.injEq] at scanned
    rcases scanned with ⟨_, -, _, -, rfl, -⟩
    trivial
  · simp only [bind_eq_ok_iff, pure_eq_ok, Except.ok.injEq, Prod.mk.injEq] at scanned
    rcases scanned with ⟨_, -, rfl, -⟩
    trivial
  · split at scanned
    · exact distinct_signedNumber scanned
    · exact distinct_signedNumber scanned
    · exact distinct_basedInteger scanned
    · exact distinct_basedInteger scanned
    · exact distinct_basedInteger scanned
    · exact distinct_signedNumber scanned

end Numbers

/-! ## Documents -/

theorem distinct_string {place : Nat} {outcome : Except Fault (String × List Char)}
    {value : Value} {rest : List Char}
    (scanned : (do let (text, rest) ← outcome; return (Value.string place text, rest)) =
      Except.ok (value, rest)) : value.Distinct := by
  rcases bind_eq_ok_iff.mp scanned with ⟨_, -, made⟩
  rcases Except.ok.inj made with ⟨⟩
  trivial

theorem distinct_scanValue (total room : Nat) : GivesDistinct (scanValue total room) := by
  -- The items of an array and of a table between braces have less room.
  induction room using Nat.strongRecOn with
  | ind room ih =>
      intro text value rest scanned
      unfold scanValue at scanned
      simp only at scanned
      split at scanned
      · exact distinct_string scanned
      · exact distinct_string scanned
      · split at scanned
        · cases scanned
        · rename_i room
          rcases bind_eq_ok_iff.mp scanned with ⟨⟨items, behind⟩, read, made⟩
          rcases Except.ok.inj made with ⟨⟩
          exact distinct_array_iff.mpr
            (distinct_scanItems (ih room (Nat.lt_succ_self room)) read)
      · split at scanned
        · cases scanned
        · rename_i room
          exact distinct_scanInline (ih room (Nat.lt_succ_self room)) scanned
      · exact distinct_scanWord scanned trivial
      · exact distinct_scanWord scanned trivial
      · exact distinct_scanWord scanned trivial
      · exact distinct_scanWord scanned trivial
      · split_ifs at scanned
        · exact distinct_scanNumber scanned
        · cases scanned
      · cases scanned

theorem distinct_scanStatement {total : Nat} {text rest : List Char} {statement : Statement}
    (scanned : scanStatement total text = .ok (statement, rest)) : statement.Distinct := by
  unfold scanStatement at scanned
  simp only at scanned
  split at scanned
  · simp only [bind_eq_ok_iff, pure_eq_ok, Except.ok.injEq, Prod.mk.injEq] at scanned
    rcases scanned with ⟨_, -, rfl, -⟩
    trivial
  · simp only [bind_eq_ok_iff, pure_eq_ok, Except.ok.injEq, Prod.mk.injEq] at scanned
    rcases scanned with ⟨_, -, rfl, -⟩
    trivial
  · simp only [bind_eq_ok_iff, pure_eq_ok, Except.ok.injEq, Prod.mk.injEq] at scanned
    rcases scanned with ⟨⟨⟨key, value⟩, behind⟩, assigned, _, -, rfl, -⟩
    exact distinct_scanAssignment (distinct_scanValue total nestingLimit) assigned

theorem distinct_scanStatements (total fuel : Nat) (text : List Char) :
    ∀ statement ∈ (scanStatements total fuel text).1, statement.Distinct := by
  induction fuel generalizing text with
  | zero => simp [scanStatements]
  | succ fuel ih =>
      unfold scanStatements
      split
      · simp
      · split
        · exact ih _
        · simp
      · exact ih _
      · exact ih _
      · split
        · simp
        · rename_i statement rest scanned
          exact List.forall_mem_cons.mpr ⟨distinct_scanStatement scanned, ih rest⟩

/-- In a document that is read, every key has one value. -/
theorem distinct_of_parse {document : String} {members : Members}
    (parsed : parse document = .ok members) : members.Distinct := by
  unfold parse at parsed
  simp only at parsed
  split at parsed
  · cases parsed
  · cases parsed
  · rename_i draft added _
    rcases Except.ok.inj parsed with rfl
    exact Draft.distinct_addAll Members.distinct_nil (distinct_scanStatements _ _ _) added

end TransactionLedger.Toml
