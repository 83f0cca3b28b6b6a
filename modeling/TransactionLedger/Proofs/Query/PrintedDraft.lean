import Mathlib.Tactic.SplitIfs
import TransactionLedger.Proofs.Json.Reading
import TransactionLedger.Query.DraftReader

/-!
# Reading printed drafts

A printed combination has none of the members that only a comparison has, and a printed comparison
lacks the sides of a combination. So a printed draft is read back as what it is, whatever its tree
looks like. The draft that is read from a document is nested no deeper than the document.
-/

namespace TransactionLedger.Query.Draft

open Json Node

/-! ## Printed drafts -/

@[simp]
theorem stringOf?_node (text : String) : stringOf? (string text).node = some text := by
  simp [node, stringOf?]

theorem valueOf?_node {value : Json} (wellFormed : value.WellFormed nestingLimit)
    (readable : value.EveryNumber Number.Readable) : valueOf? value.node = some value := by
  have legible := EveryNumber.imp (fun _ => Number.Readable.legible) value readable
  have read := readValue_node value wellFormed legible
  rw [reread_of_readable value readable] at read
  unfold valueOf?
  rw [read]

theorem sides?_combination {lhs rhs : Draft} (operator : String)
    (lhsRead : ofNode? lhs.toJson.node = some lhs) (rhsRead : ofNode? rhs.toJson.node = some rhs) :
    sides? {} (memberNodes [("lhs", lhs.toJson), ("operator", .string operator),
      ("rhs", rhs.toJson)]) = some ⟨some lhs, some operator, some rhs⟩ := by
  simp [memberNodes, sides?, fill, lhsRead, rhsRead]

theorem sides?_comparison (field operator : String) (value : Json) :
    sides? {} (memberNodes [("field", .string field), ("operator", .string operator),
      ("value", value)]) = some ⟨none, some operator, none⟩ := by
  simp [memberNodes, sides?, fill]

theorem terms?_comparison {value : Json} (field operator : String)
    (valueRead : valueOf? value.node = some value) :
    terms? {} (memberNodes [("field", .string field), ("operator", .string operator),
      ("value", value)]) = some ⟨some field, some operator, some value⟩ := by
  simp [memberNodes, terms?, fill, valueRead]

/-- A printed draft is read back. -/
theorem ofNode?_node {room : Nat} {draft : Draft} (small : room ≤ nestingLimit)
    (wellFormed : draft.toJson.WellFormed room)
    (readable : draft.toJson.EveryNumber Number.Readable) :
    ofNode? draft.toJson.node = some draft := by
  induction draft generalizing room with
  | combination lhs operator rhs ihLhs ihRhs =>
      rcases wellFormed with ⟨-, -, lhsWellFormed, -, rhsWellFormed, -⟩
      rcases readable with ⟨lhsReadable, -, rhsReadable, -⟩
      have smaller : room - 1 ≤ nestingLimit := Nat.le_trans (Nat.sub_le _ _) small
      have sides := sides?_combination operator (ihLhs smaller lhsWellFormed lhsReadable)
        (ihRhs smaller rhsWellFormed rhsReadable)
      simp only [toJson, node, ofNode?, sides, Option.bind_some, Sides.finish?]
  | comparison field operator value =>
      rcases wellFormed with ⟨-, -, -, -, valueWellFormed, -⟩
      rcases readable with ⟨-, -, valueReadable, -⟩
      have smaller : room - 1 ≤ nestingLimit := Nat.le_trans (Nat.sub_le _ _) small
      have valueRead := valueOf?_node (WellFormed.mono smaller value valueWellFormed) valueReadable
      simp only [toJson, node, ofNode?, sides?_comparison, terms?_comparison field operator valueRead,
        Option.bind_some, Sides.finish?, Terms.finish?, Option.getD_some]

theorem read_node {room : Nat} {draft : Draft} (small : room ≤ nestingLimit)
    (wellFormed : draft.toJson.WellFormed room)
    (readable : draft.toJson.EveryNumber Number.Readable) :
    read room draft.toJson.node = .ok draft := by
  have legible := EveryNumber.imp (fun _ => Number.Readable.legible) draft.toJson readable
  simp [read, readValue_node draft.toJson wellFormed legible,
    ofNode?_node small wellFormed readable]

/-! ## The two forms apart -/

theorem Sides.exists_of_finish? {sides : Sides} {draft : Draft}
    (finished : sides.finish? = some draft) :
    ∃ lhs operator rhs, sides = ⟨some lhs, some operator, some rhs⟩ ∧
      draft = combination lhs operator rhs := by
  unfold Sides.finish? at finished
  split at finished
  · exact ⟨_, _, _, rfl, (Option.some.inj finished).symm⟩
  · contradiction

theorem Terms.exists_of_finish? {terms : Terms} {draft : Draft}
    (finished : terms.finish? = some draft) :
    ∃ field operator value, terms = ⟨some field, some operator, value⟩ ∧
      draft = comparison field operator (value.getD .null) := by
  unfold Terms.finish? at finished
  split at finished
  · exact ⟨_, _, _, rfl, (Option.some.inj finished).symm⟩
  · contradiction

theorem ofNode?_combination_ne (lhs rhs : Draft) (operator field other : String) (value : Json) :
    ofNode? (combination lhs operator rhs).toJson.node ≠ some (comparison field other value) := by
  have terms : (terms? {} (memberNodes [("lhs", lhs.toJson), ("operator", .string operator),
      ("rhs", rhs.toJson)])).bind Terms.finish? = none := by
    simp [memberNodes, terms?, fill, Terms.finish?]
  intro found
  simp only [toJson, node, ofNode?, terms] at found
  split at found
  · rename_i draft combined
    rcases Option.bind_eq_some_iff.mp combined with ⟨sides, -, finished⟩
    rcases Sides.exists_of_finish? finished with ⟨_, _, _, -, rfl⟩
    cases found
  · contradiction

theorem ofNode?_comparison_ne (field operator : String) (value : Json) (lhs rhs : Draft)
    (other : String) :
    ofNode? (comparison field operator value).toJson.node ≠ some (combination lhs other rhs) := by
  intro found
  simp only [toJson, node, ofNode?, sides?_comparison, Option.bind_some, Sides.finish?] at found
  rcases Option.bind_eq_some_iff.mp found with ⟨terms, -, finished⟩
  rcases Terms.exists_of_finish? finished with ⟨_, _, _, -, same⟩
  cases same

/-! ## Drafts from documents -/

theorem mem_of_readMembers {room : Nat} {done members : Members} {nodes : List (Source × Node)}
    (read : readMembers room done nodes = .ok members) :
    ∀ member ∈ nodes, ∃ value, readValue room member.2 = .ok value := by
  induction nodes generalizing done with
  | nil => simp
  | cons node rest ih =>
      rcases node with ⟨key, node⟩
      simp only [readMembers, bind_eq_ok_iff] at read
      rcases read with ⟨key, -, value, valueRead, restRead⟩
      intro member inside
      rcases List.mem_cons.mp inside with rfl | behind
      · exact ⟨value, valueRead⟩
      · exact ih restRead member behind

mutual

/-- With more room a value is read alike. -/
theorem readValue_mono {room more : Nat} (wider : room ≤ more) {value : Json} (node : Node)
    (read : readValue room node = .ok value) : readValue more node = .ok value := by
  cases node with
  | array items closed =>
      cases room with
      | zero => contradiction
      | succ room =>
          cases more with
          | zero => contradiction
          | succ more =>
              simp only [readValue, bind_eq_ok_iff] at read ⊢
              rcases read with ⟨values, itemsRead, made⟩
              exact ⟨values, readItems_mono (Nat.le_of_succ_le_succ wider) items itemsRead, made⟩
  | object members closed =>
      cases room with
      | zero => contradiction
      | succ room =>
          cases more with
          | zero => contradiction
          | succ more =>
              simp only [readValue, bind_eq_ok_iff] at read ⊢
              rcases read with ⟨values, membersRead, made⟩
              exact ⟨values, readMembers_mono (Nat.le_of_succ_le_succ wider) members membersRead, made⟩
  | null => exact read
  | bool value => exact read
  | number numeral => exact read
  | string spelling => exact read
  | broken => exact read

theorem readItems_mono {room more : Nat} (wider : room ≤ more) {values : List Json}
    (nodes : List Node) (read : readItems room nodes = .ok values) :
    readItems more nodes = .ok values := by
  cases nodes with
  | nil => exact read
  | cons node rest =>
      simp only [readItems, bind_eq_ok_iff] at read ⊢
      rcases read with ⟨first, firstRead, others, restRead, made⟩
      exact ⟨first, readValue_mono wider node firstRead, others, readItems_mono wider rest restRead,
        made⟩

theorem readMembers_mono {room more : Nat} (wider : room ≤ more) {done members : Members}
    (nodes : List (Source × Node)) (read : readMembers room done nodes = .ok members) :
    readMembers more done nodes = .ok members := by
  cases nodes with
  | nil => exact read
  | cons node rest =>
      rcases node with ⟨key, node⟩
      simp only [readMembers, bind_eq_ok_iff] at read ⊢
      rcases read with ⟨key, keyRead, value, valueRead, restRead⟩
      exact ⟨key, keyRead, value, readValue_mono wider node valueRead,
        readMembers_mono wider rest restRead⟩

end

theorem wellFormed_of_valueOf? {room : Nat} {node : Node} {value other : Json}
    (small : room ≤ nestingLimit) (read : readValue room node = .ok other)
    (found : valueOf? node = some value) : value.WellFormed room := by
  unfold valueOf? at found
  rw [readValue_mono small node read] at found
  rcases Option.some.inj found with rfl
  exact wellFormed_of_readValue node read

/-- A part is filled only where it was empty. -/
theorem fill_eq_some_iff {α : Type} {place part : Option α} {filled : Option α} :
    fill place part = some filled ↔ place = none ∧ ∃ found, part = some found ∧
      filled = some found := by
  cases place <;> cases part <;> simp [fill, eq_comm]

/-- The sides that have been found are nested no deeper than this. -/
def Sides.WellFormed (room : Nat) (sides : Sides) : Prop :=
  ∀ draft, sides.lhs = some draft ∨ sides.rhs = some draft → draft.toJson.WellFormed room

theorem wellFormed_of_terms? {room : Nat} {done terms : Terms} {members : List (Source × Node)}
    (small : room ≤ nestingLimit)
    (read : ∀ member ∈ members, ∃ value, readValue room member.2 = .ok value)
    (before : ∀ value, done.value = some value → value.WellFormed room)
    (found : terms? done members = some terms) :
    ∀ value, terms.value = some value → value.WellFormed room := by
  induction members generalizing done with
  | nil =>
      rcases Option.some.inj found with rfl
      exact before
  | cons member rest ih =>
      rcases member with ⟨key, node⟩
      rcases List.forall_mem_cons.mp read with ⟨⟨value, valueRead⟩, restRead⟩
      simp only [terms?, Option.bind_eq_bind, Option.bind_eq_some_iff] at found
      rcases found with ⟨key, -, found⟩
      split_ifs at found
      · simp only [Option.bind_eq_some_iff] at found
        rcases found with ⟨field, -, found⟩
        refine ih restRead ?_ found
        exact before
      · simp only [Option.bind_eq_some_iff] at found
        rcases found with ⟨operator, -, found⟩
        refine ih restRead ?_ found
        exact before
      · simp only [Option.bind_eq_some_iff, fill_eq_some_iff] at found
        rcases found with ⟨_, ⟨-, other, valueFound, rfl⟩, found⟩
        refine ih restRead ?_ found
        rintro _ ⟨⟩
        exact wellFormed_of_valueOf? small valueRead valueFound
      · exact ih restRead before found

theorem wellFormed_comparison {room : Nat} {field operator : String} {value : Json}
    (wellFormed : value.WellFormed room) :
    (comparison field operator value).toJson.WellFormed (room + 1) := by
  have keys : ["field", "operator", "value"].Pairwise (· < ·) := by decide
  exact ⟨Nat.succ_pos room, List.pairwise_map.mp keys, trivial, trivial, wellFormed, trivial⟩

theorem wellFormed_combination {room : Nat} {lhs rhs : Draft} {operator : String}
    (lhsWellFormed : lhs.toJson.WellFormed room) (rhsWellFormed : rhs.toJson.WellFormed room) :
    (combination lhs operator rhs).toJson.WellFormed (room + 1) := by
  have keys : ["lhs", "operator", "rhs"].Pairwise (· < ·) := by decide
  exact ⟨Nat.succ_pos room, List.pairwise_map.mp keys, lhsWellFormed, trivial, rhsWellFormed,
    trivial⟩

mutual

/-- A draft that is read is nested no deeper than the value that it is read from. -/
theorem wellFormed_of_ofNode? {room : Nat} (small : room ≤ nestingLimit) {draft : Draft}
    {value : Json} (node : Node) (read : readValue room node = .ok value)
    (found : ofNode? node = some draft) : draft.toJson.WellFormed room := by
  cases node with
  | object members closed =>
      cases room with
      | zero => contradiction
      | succ room =>
          simp only [readValue, bind_eq_ok_iff] at read
          rcases read with ⟨_, membersRead, -⟩
          have parts := mem_of_readMembers membersRead
          have smaller : room ≤ nestingLimit := Nat.le_of_succ_le small
          simp only [ofNode?] at found
          split at found
          · rename_i other combined
            rcases Option.some.inj found with rfl
            rcases Option.bind_eq_some_iff.mp combined with ⟨sides, sidesFound, finished⟩
            have none : Sides.WellFormed room {} := by
              intro draft found
              simp at found
            have wellFormed := wellFormed_of_sides? smaller members parts none sidesFound
            rcases Sides.exists_of_finish? finished with ⟨lhs, operator, rhs, rfl, rfl⟩
            exact wellFormed_combination (wellFormed lhs (.inl rfl)) (wellFormed rhs (.inr rfl))
          · rcases Option.bind_eq_some_iff.mp found with ⟨terms, termsFound, finished⟩
            have wellFormed := wellFormed_of_terms? smaller parts (by simp) termsFound
            rcases Terms.exists_of_finish? finished with ⟨field, operator, value, rfl, rfl⟩
            apply wellFormed_comparison
            cases value with
            | none => trivial
            | some value => exact wellFormed value rfl
  | _ => contradiction

theorem wellFormed_of_sides? {room : Nat} (small : room ≤ nestingLimit) {done sides : Sides}
    (members : List (Source × Node))
    (read : ∀ member ∈ members, ∃ value, readValue room member.2 = .ok value)
    (before : done.WellFormed room) (found : sides? done members = some sides) :
    sides.WellFormed room := by
  cases members with
  | nil =>
      rcases Option.some.inj found with rfl
      exact before
  | cons member rest =>
      rcases member with ⟨key, node⟩
      rcases List.forall_mem_cons.mp read with ⟨⟨value, valueRead⟩, restRead⟩
      simp only [sides?, Option.bind_eq_bind, Option.bind_eq_some_iff] at found
      rcases found with ⟨key, -, found⟩
      split_ifs at found
      · simp only [Option.bind_eq_some_iff, fill_eq_some_iff] at found
        rcases found with ⟨_, ⟨-, lhs, lhsFound, rfl⟩, found⟩
        refine wellFormed_of_sides? small rest restRead ?_ found
        rintro draft (lhsGiven | rhsGiven)
        · rcases Option.some.inj lhsGiven with rfl
          exact wellFormed_of_ofNode? small node valueRead lhsFound
        · exact before draft (.inr rhsGiven)
      · simp only [Option.bind_eq_some_iff] at found
        rcases found with ⟨operator, -, found⟩
        refine wellFormed_of_sides? small rest restRead ?_ found
        exact before
      · simp only [Option.bind_eq_some_iff, fill_eq_some_iff] at found
        rcases found with ⟨_, ⟨-, rhs, rhsFound, rfl⟩, found⟩
        refine wellFormed_of_sides? small rest restRead ?_ found
        rintro draft (lhsGiven | rhsGiven)
        · exact before draft (.inl lhsGiven)
        · rcases Option.some.inj rhsGiven with rfl
          exact wellFormed_of_ofNode? small node valueRead rhsFound
      · exact wellFormed_of_sides? small rest restRead before found

end

theorem wellFormed_of_read {room : Nat} (small : room ≤ nestingLimit) {node : Node} {draft : Draft}
    (succeeds : read room node = .ok draft) : draft.toJson.WellFormed room := by
  simp only [read, bind_eq_ok_iff] at succeeds
  rcases succeeds with ⟨value, valueRead, found⟩
  split at found
  · rename_i other stated
    rcases Except.ok.inj found with rfl
    exact wellFormed_of_ofNode? small node valueRead stated
  · contradiction

end TransactionLedger.Query.Draft
