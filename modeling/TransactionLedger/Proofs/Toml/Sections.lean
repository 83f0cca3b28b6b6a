import TransactionLedger.Proofs.Toml.Lines

/-!
# Documents of tables with headers

A document that consists of tables with different names, each a header with assignments to different
keys below, has these tables as its members, in their order and with their assignments.
-/

namespace TransactionLedger.Toml

/-- A table as it is written: its header and the assignments below. -/
structure HeadedTable where
  name : String
  assignments : List (String × (Nat → Value))

/-- What the lines of a table say. -/
def HeadedTable.sayings (headed : HeadedTable) : List Saying :=
  .header headed.name :: headed.assignments.map fun assignment =>
    .assign assignment.1 assignment.2

/-- The member is what has been assigned, at some place. -/
def Assigned (assignment : String × (Nat → Value)) (member : String × Value) : Prop :=
  ∃ place, member = (assignment.1, assignment.2 place)

/-- The member is the table that has been written. -/
def Made (headed : HeadedTable) (member : String × Value) : Prop :=
  ∃ place members, member = (headed.name, .table place .headed members) ∧
    List.Forall₂ Assigned headed.assignments members

/-! ## One statement -/

section Step

variable {front members : Members} {name key : String} {value other : Value} {place start : Nat}
  {kind : TableKind} {opened : List String}

theorem find?_of_fresh (fresh : ∀ member ∈ front, member.1 ≠ name) :
    (Table.mk place kind front).find? name = none := by
  simpa [Table.find?] using fresh

theorem find?_append_singleton (fresh : ∀ member ∈ front, member.1 ≠ name) :
    (Table.mk place kind (front ++ [(name, value)])).find? name = some value := by
  have missing : (front.find? fun member => member.1 == name) = none := by simpa using fresh
  simp [Table.find?, List.find?_append, missing]

theorem replace_append_singleton (fresh : ∀ member ∈ front, member.1 ≠ name) :
    (Table.mk place kind (front ++ [(name, value)])).replace name other =
      ⟨place, kind, front ++ [(name, other)]⟩ := by
  have kept : (front.map fun member => if member.1 == name then (name, other) else member) =
      front := by
    conv_rhs => rw [← List.map_id front]
    exact List.map_congr_left fun member inside => if_neg (by simpa using fresh member inside)
  rw [Table.replace, List.map_append, kept]
  simp

/-- The document under construction whose last table is open. -/
def building (front : Members) (name : String) (start : Nat) (members : Members) : Draft :=
  ⟨⟨0, .headed, front ++ [(name, .table start .headed members)]⟩, [name]⟩

theorem add_header (fresh : ∀ member ∈ front, member.1 ≠ name) :
    Draft.add ⟨⟨0, .headed, front⟩, opened⟩ (.header place [] name) =
      .ok (building front name place []) := by
  simp only [Draft.add, Table.changeAt?, Table.openHere?, find?_of_fresh fresh]
  rfl

theorem add_assign (fresh : ∀ member ∈ front, member.1 ≠ name)
    (freshKey : ∀ member ∈ members, member.1 ≠ key) :
    (building front name start members).add (.assign place [] key value) =
      .ok (building front name start (members ++ [(key, value)])) := by
  simp only [Draft.add, building, Table.changeAt?, find?_append_singleton fresh, Table.mayEnter,
    Table.assign?, Table.assignHere?, find?_of_fresh freshKey]
  change Except.ok (Draft.mk (Table.replace _ _ _) _) = _
  rw [replace_append_singleton fresh]
  rfl

end Step

/-! ## All statements -/

theorem addAll_append (draft : Draft) (statements more : List Statement) :
    draft.addAll (statements ++ more) = draft.addAll statements >>= (·.addAll more) := by
  induction statements generalizing draft with
  | nil => rfl
  | cons statement statements ih =>
      rw [List.cons_append, Draft.addAll, Draft.addAll]
      cases draft.add statement with
      | error place => rfl
      | ok next => exact ih next

section Assigning

variable {front members : Members} {name : String} {start : Nat}
  {assignments : List (String × (Nat → Value))} {statements : List Statement}

/-- Assignments to new keys are added to the open table. -/
theorem exists_addAll_assign (fresh : ∀ member ∈ front, member.1 ≠ name)
    (distinct : (assignments.map Prod.fst).Nodup)
    (new : ∀ assignment ∈ assignments, ∀ member ∈ members, member.1 ≠ assignment.1)
    (states : List.Forall₂ Saying.States
      (assignments.map fun assignment => .assign assignment.1 assignment.2) statements) :
    ∃ more, List.Forall₂ Assigned assignments more ∧
      (building front name start members).addAll statements =
        .ok (building front name start (members ++ more)) := by
  induction assignments generalizing members statements with
  | nil =>
      rcases List.forall₂_nil_left_iff.mp states with rfl
      exact ⟨[], .nil, by rw [List.append_nil]; rfl⟩
  | cons assignment assignments ih =>
      rcases assignment with ⟨key, value⟩
      rcases List.forall₂_cons_left_iff.mp states with ⟨_, rest, stated, restStates, rfl⟩
      rcases stated with _ | @⟨_, _, place, valueStart⟩
      rcases List.nodup_cons.mp distinct with ⟨freshKey, restDistinct⟩
      rcases List.forall_mem_cons.mp new with ⟨newHere, newLater⟩
      have restNew : ∀ assignment ∈ assignments, ∀ member ∈ members ++ [(key, value valueStart)],
          member.1 ≠ assignment.1 := by
        intro assignment inside member present
        rcases List.mem_append.mp present with old | added
        · exact newLater assignment inside member old
        · rcases List.mem_singleton.mp added with rfl
          intro same
          exact freshKey (List.mem_map.mpr ⟨assignment, inside, same.symm⟩)
      rcases ih restDistinct restNew restStates with ⟨more, assigned, added⟩
      refine ⟨(key, value valueStart) :: more, .cons ⟨valueStart, rfl⟩ assigned, ?_⟩
      rw [Draft.addAll, add_assign fresh newHere, ok_bind, added, List.append_assoc,
        List.singleton_append]

end Assigning

/-- Tables with new names are added to the document. -/
theorem exists_addAll {tables : List HeadedTable} {statements : List Statement} {front : Members}
    (opened : List String) (names : (tables.map HeadedTable.name).Nodup)
    (keys : ∀ headed ∈ tables, (headed.assignments.map Prod.fst).Nodup)
    (new : ∀ headed ∈ tables, ∀ member ∈ front, member.1 ≠ headed.name)
    (states : List.Forall₂ Saying.States (tables.flatMap HeadedTable.sayings) statements) :
    ∃ members lastOpened, List.Forall₂ Made tables members ∧
      Draft.addAll ⟨⟨0, .headed, front⟩, opened⟩ statements =
        .ok ⟨⟨0, .headed, front ++ members⟩, lastOpened⟩ := by
  induction tables generalizing front opened statements with
  | nil =>
      rcases List.forall₂_nil_left_iff.mp states with rfl
      exact ⟨[], opened, .nil, by rw [List.append_nil]; rfl⟩
  | cons headed tables ih =>
      rcases List.nodup_cons.mp names with ⟨freshName, restNames⟩
      rcases List.forall_mem_cons.mp keys with ⟨keysHere, keysLater⟩
      rcases List.forall_mem_cons.mp new with ⟨newHere, newLater⟩
      rw [List.flatMap_cons] at states
      have first := (List.forall₂_take_append _ _ _ states.flip).flip
      have others := (List.forall₂_drop_append _ _ _ states.flip).flip
      rcases List.forall₂_cons_left_iff.mp first with ⟨_, assigns, stated, assignStates, shape⟩
      rcases stated with @⟨_, place⟩
      have nothing : ∀ assignment ∈ headed.assignments, ∀ member ∈ ([] : Members),
          member.1 ≠ assignment.1 := by simp
      rcases exists_addAll_assign newHere keysHere nothing assignStates with
        ⟨inner, assigned, added⟩
      have newBehind : ∀ other ∈ tables, ∀ member ∈
          front ++ [(headed.name, Value.table place .headed inner)], member.1 ≠ other.name := by
        intro other inside member present
        rcases List.mem_append.mp present with old | last
        · exact newLater other inside member old
        · rcases List.mem_singleton.mp last with rfl
          intro same
          exact freshName (List.mem_map.mpr ⟨other, inside, same.symm⟩)
      rcases ih _ restNames keysLater newBehind others with
        ⟨members, lastOpened, made, addedLater⟩
      refine ⟨(headed.name, .table place .headed inner) :: members, lastOpened,
        .cons ⟨place, inner, rfl, assigned⟩ made, ?_⟩
      rw [← List.take_append_drop headed.sayings.length statements, shape, List.cons_append,
        Draft.addAll, add_header newHere, ok_bind, addAll_append, added, List.nil_append, ok_bind,
        building, addedLater, List.append_assoc, List.singleton_append]

theorem length_le_length_flatMap (lines : List (List Char)) :
    lines.length ≤ (lines.flatMap (· ++ ['\n'])).length := by
  induction lines with
  | nil => exact Nat.le_refl 0
  | cons line lines ih =>
      simp only [List.flatMap_cons, List.length_append, List.length_cons, List.length_nil]
      omega

/-- A document whose lines are tables with headers has these tables as its members. -/
theorem exists_parse_lines {tables : List HeadedTable} {lines : List (List Char)}
    (names : (tables.map HeadedTable.name).Nodup)
    (keys : ∀ headed ∈ tables, (headed.assignments.map Prod.fst).Nodup)
    (spelled : List.Forall₂ Spells (lines.filter fun line => !isSilent line)
      (tables.flatMap HeadedTable.sayings))
    {document : String} (text : document.toList = lines.flatMap (· ++ ['\n']))
    (unmarked : withoutMark document.toList = document.toList) :
    ∃ members, List.Forall₂ Made tables members ∧ parse document = .ok members := by
  have enough : lines.length ≤ (lines.flatMap (· ++ ['\n'])).length + 1 :=
    Nat.le_succ_of_le (length_le_length_flatMap lines)
  rcases exists_scanStatements spelled document.length enough with ⟨statements, states, scanned⟩
  have new : ∀ headed ∈ tables, ∀ member ∈ ([] : Members), member.1 ≠ headed.name := by simp
  rcases exists_addAll [] names keys new states with
    ⟨members, lastOpened, made, added⟩
  refine ⟨members, made, ?_⟩
  rw [List.nil_append] at added
  rw [text] at unmarked
  simp only [parse, text, unmarked, scanned, Draft.empty, added]

end TransactionLedger.Toml
