import Mathlib.Data.List.Nodup
import TransactionLedger.Filter.Basic
import TransactionLedger.Proofs.Filter.Placeholder

/-!
# The names of placeholders

The names come from four sources: one for the id, one for each event type, four for the bounds of
the times, and one for each leaf of an expression. No two of them are the same, and every one can
stand behind a colon.
-/

namespace TransactionLedger.Filter

open Query

theorem toList_leafName (position : Nat) :
    (leafName position).toList = 'd' :: 'q' :: Text.decimal position := by
  simp [leafName]

theorem toList_eventTypeName (position : Nat) :
    (eventTypeName position).toList = 'e' :: 't' :: Text.decimal position := by
  simp [eventTypeName]

theorem leafName_injective : Function.Injective leafName := by
  intro first second same
  have texts := congrArg String.toList same
  simp only [toList_leafName, List.cons.injEq, true_and] at texts
  exact Text.decimal_injective texts

theorem eventTypeName_injective : Function.Injective eventTypeName := by
  intro first second same
  have texts := congrArg String.toList same
  simp only [toList_eventTypeName, List.cons.injEq, true_and] at texts
  exact Text.decimal_injective texts

/-- Behind `et` stands a digit, not the letter of a bound. -/
theorem eventTypeName_ne_of_letter {position : Nat} {name : String} {letter : Char}
    {rest : List Char} (shape : name.toList = 'e' :: 't' :: letter :: rest)
    (noDigit : Text.isDigit letter = false) :
    eventTypeName position ≠ name := by
  intro same
  have texts := congrArg String.toList same
  simp only [toList_eventTypeName, shape, List.cons.injEq, true_and] at texts
  have digit : Text.isDigit letter = true :=
    Text.isDigit_of_mem_decimal (n := position) (by simp [texts])
  rw [noDigit] at digit
  cases digit

theorem eventTypeName_ne {position : Nat} {name : String} {letter : Char} {rest : List Char}
    (shape : name.toList = letter :: rest) (other : letter ≠ 'e') :
    eventTypeName position ≠ name := by
  intro same
  have texts := congrArg String.toList same
  simp only [toList_eventTypeName, shape, List.cons.injEq] at texts
  exact other texts.1.symm

theorem leafName_ne_eventTypeName (leaf position : Nat) :
    leafName leaf ≠ eventTypeName position := by
  intro same
  have texts := congrArg String.toList same
  simp [toList_leafName, toList_eventTypeName] at texts

theorem leafName_ne {position : Nat} {name : String} {letter : Char} {rest : List Char}
    (shape : name.toList = letter :: rest) (other : letter ≠ 'd') : leafName position ≠ name := by
  intro same
  have texts := congrArg String.toList same
  simp only [toList_leafName, shape, List.cons.injEq] at texts
  exact other texts.1.symm

theorem isPlaceholderName_leafName (position : Nat) : IsPlaceholderName (leafName position) := by
  refine ⟨by simp [toList_leafName], ?_⟩
  intro c inside
  simp only [toList_leafName, List.mem_cons] at inside
  rcases inside with rfl | rfl | inside
  · rfl
  · rfl
  · exact isIdentifierPart_of_isDigit (Text.isDigit_of_mem_decimal inside)

theorem isPlaceholderName_eventTypeName (position : Nat) :
    IsPlaceholderName (eventTypeName position) := by
  refine ⟨by simp [toList_eventTypeName], ?_⟩
  intro c inside
  simp only [toList_eventTypeName, List.mem_cons] at inside
  rcases inside with rfl | rfl | inside
  · rfl
  · rfl
  · exact isIdentifierPart_of_isDigit (Text.isDigit_of_mem_decimal inside)

/-! ## Numbered values -/

section Numbered

variable {name : Nat → String} (values : List BindValue)

theorem names_numbered (first : Nat) :
    (numbered name first values).map Prod.fst = (List.range' first values.length).map name := by
  induction values generalizing first with
  | nil => rfl
  | cons value rest ih => simp [numbered, List.range'_succ, ih]

/-- Under a name of the numbering stands the value at its position. -/
theorem lookup_numbered (injective : Function.Injective name) (first position : Nat) :
    (numbered name first values).lookup (name (first + position)) = values[position]? := by
  induction values generalizing first position with
  | nil => rfl
  | cons value rest ih =>
      cases position with
      | zero => simp [numbered]
      | succ position =>
          have other : name (first + (position + 1)) ≠ name first := by
            intro same
            have positions := injective same
            omega
          have next := ih (first + 1) position
          rw [show first + 1 + position = first + (position + 1) by omega] at next
          rw [numbered, List.lookup_cons, beq_false_of_ne other, List.getElem?_cons_succ]
          exact next

end Numbered

/-! ## The names of a search -/

/-- The names of the bounds of the times. -/
def timeNames : List String :=
  ["etsf", "etst", "itsf", "itst"]

/-- Every name that the filter of a search can use, in order. -/
def searchNames (eventTypes leaves : Nat) : List String :=
  "uid" :: ((List.range eventTypes).map eventTypeName ++
    (timeNames ++ (List.range leaves).map leafName))

theorem eventTypeName_ne_of_mem {name : String} (inside : name ∈ timeNames) (position : Nat) :
    eventTypeName position ≠ name := by
  simp only [timeNames, List.mem_cons, List.not_mem_nil, or_false] at inside
  rcases inside with rfl | rfl | rfl | rfl
  · exact eventTypeName_ne_of_letter rfl rfl
  · exact eventTypeName_ne_of_letter rfl rfl
  · exact eventTypeName_ne rfl (by decide)
  · exact eventTypeName_ne rfl (by decide)

theorem leafName_ne_of_mem {name : String} (inside : name ∈ timeNames) (position : Nat) :
    leafName position ≠ name := by
  simp only [timeNames, List.mem_cons, List.not_mem_nil, or_false] at inside
  rcases inside with rfl | rfl | rfl | rfl <;> exact leafName_ne rfl (by decide)

theorem nodup_searchNames (eventTypes leaves : Nat) : (searchNames eventTypes leaves).Nodup := by
  have typeNames : ((List.range eventTypes).map eventTypeName).Nodup :=
    List.nodup_range.map eventTypeName_injective
  have leafNames : ((List.range leaves).map leafName).Nodup :=
    List.nodup_range.map leafName_injective
  have timesApart : (timeNames ++ (List.range leaves).map leafName).Nodup := by
    refine List.nodup_append.mpr ⟨by decide, leafNames, ?_⟩
    intro name inside other leaf same
    rcases List.mem_map.mp leaf with ⟨position, -, rfl⟩
    exact leafName_ne_of_mem inside position same.symm
  have typesApart : ((List.range eventTypes).map eventTypeName ++
      (timeNames ++ (List.range leaves).map leafName)).Nodup := by
    refine List.nodup_append.mpr ⟨typeNames, timesApart, ?_⟩
    intro name type other inside same
    rcases List.mem_map.mp type with ⟨position, -, rfl⟩
    rcases List.mem_append.mp inside with inside | leaf
    · exact eventTypeName_ne_of_mem inside position same
    · rcases List.mem_map.mp leaf with ⟨number, -, rfl⟩
      exact leafName_ne_eventTypeName number position same.symm
  refine List.nodup_cons.mpr ⟨?_, typesApart⟩
  intro inside
  rcases List.mem_append.mp inside with type | inside
  · rcases List.mem_map.mp type with ⟨position, -, same⟩
    exact eventTypeName_ne rfl (by decide) same
  · rcases List.mem_append.mp inside with inside | leaf
    · exact absurd inside (by decide)
    · rcases List.mem_map.mp leaf with ⟨position, -, same⟩
      exact leafName_ne rfl (by decide) same

theorem isPlaceholderName_of_mem_timeNames : ∀ name ∈ timeNames, IsPlaceholderName name := by
  simp [timeNames, IsPlaceholderName, isIdentifierPart, isIdentifierStart]

theorem isPlaceholderName_of_mem_searchNames {eventTypes leaves : Nat} {name : String}
    (inside : name ∈ searchNames eventTypes leaves) : IsPlaceholderName name := by
  rcases List.mem_cons.mp inside with rfl | inside
  · simp [IsPlaceholderName, isIdentifierPart, isIdentifierStart]
  · rcases List.mem_append.mp inside with type | inside
    · rcases List.mem_map.mp type with ⟨position, -, rfl⟩
      exact isPlaceholderName_eventTypeName position
    · rcases List.mem_append.mp inside with inside | leaf
      · exact isPlaceholderName_of_mem_timeNames name inside
      · rcases List.mem_map.mp leaf with ⟨position, -, rfl⟩
        exact isPlaceholderName_leafName position

end TransactionLedger.Filter
