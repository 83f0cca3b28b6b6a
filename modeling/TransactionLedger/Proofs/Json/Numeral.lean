import Mathlib.Tactic.SplitIfs
import TransactionLedger.Json.Lexer
import TransactionLedger.Proofs.Text.Digits

/-!
# Well-formed numerals

A numeral is well-formed if it has digits wherever digits belong and no zeros in front. Its
characters lead from the sign to a state in which a number may end, as this numeral.
-/

namespace TransactionLedger.Json

namespace Numeral

/-- One or more digits. -/
def IsRun (digits : List Char) : Prop :=
  digits ≠ [] ∧ ∀ c ∈ digits, Text.isDigit c = true

/-- A single zero, or digits that begin with another one. -/
def IsWholePart (digits : List Char) : Prop :=
  digits = ['0'] ∨ ∃ first rest, digits = first :: rest ∧ first ≠ '0' ∧
    Text.isDigit first = true ∧ ∀ c ∈ rest, Text.isDigit c = true

/-- The numeral has digits where they belong, and an exponent has a sign. -/
structure WellFormed (numeral : Numeral) : Prop where
  whole : IsWholePart numeral.whole
  fraction : ∀ digits ∈ numeral.fraction, IsRun digits
  exponent : ∀ exponent ∈ numeral.exponent, exponent.letter = 'e' ∧
    (∃ sign, (sign = '+' ∨ sign = '-') ∧ exponent.sign = some sign) ∧ IsRun exponent.digits

theorem isRun_of_isWholePart {digits : List Char} (whole : IsWholePart digits) : IsRun digits := by
  rcases whole with rfl | ⟨first, rest, rfl, -, firstDigit, restDigits⟩
  · exact ⟨by simp, by simp [Text.isDigit]⟩
  · exact ⟨by simp, List.forall_mem_cons.mpr ⟨firstDigit, restDigits⟩⟩

theorem isWholePart_decimal (n : Nat) : IsWholePart (Text.decimal n) := by
  rcases Text.decimal_head n with zero | ⟨first, rest, starts, digit, nonzero⟩
  · exact .inl zero
  · refine .inr ⟨first, rest, starts, nonzero, digit, ?_⟩
    intro c inside
    apply Text.isDigit_of_mem_decimal (n := n)
    simp [starts, inside]

theorem isRun_decimal (n : Nat) : IsRun (Text.decimal n) :=
  isRun_of_isWholePart (isWholePart_decimal n)

theorem IsRun.orZero {digits : List Char} (run : IsRun digits) : orZero digits = digits := by
  simp [Numeral.orZero, run.1]

theorem isRun_orZero {digits : List Char} (allDigits : ∀ c ∈ digits, Text.isDigit c = true) :
    IsRun (Numeral.orZero digits) := by
  by_cases empty : digits = []
  · subst empty
    exact ⟨by simp [Numeral.orZero], by simp [Numeral.orZero, Text.isDigit]⟩
  · exact ⟨by simp [Numeral.orZero, empty], by simpa [Numeral.orZero, empty] using allDigits⟩

/-- The characters of a numeral behind its sign. -/
def unsigned (numeral : Numeral) : List Char :=
  numeral.whole ++ (numeral.fraction.elim [] fun digits => '.' :: digits) ++
    numeral.exponent.elim [] Exponent.text

/-- The sign of a numeral, which is written for negative ones alone. -/
def signText (negative : Bool) : List Char :=
  if negative then ['-'] else []

theorem WellFormed.text_eq {numeral : Numeral} (wellFormed : numeral.WellFormed) :
    numeral.text = signText numeral.negative ++ numeral.unsigned := by
  rcases numeral with ⟨negative, whole, fraction, exponent⟩
  have wholeText := (isRun_of_isWholePart wellFormed.whole).orZero
  cases fraction with
  | none => cases exponent <;> simp [text, unsigned, signText, wholeText]
  | some digits =>
      have fractionText := (wellFormed.fraction digits rfl).orZero
      cases exponent <;> simp [text, unsigned, signText, wholeText, fractionText]

end Numeral

/-! ## Reading a numeral -/

namespace NumberState

/-- The characters take a number from one state to another. -/
inductive Leads : NumberState → List Char → NumberState → Prop
  | done (state : NumberState) : Leads state [] state
  | more {state next last : NumberState} {c : Char} {rest : List Char}
      (steps : state.step c = .more next) (further : Leads next rest last) :
      Leads state (c :: rest) last

theorem Leads.append {first between last : NumberState} {front back : List Char}
    (leads : Leads first front between) (further : Leads between back last) :
    Leads first (front ++ back) last := by
  induction leads with
  | done state => exact further
  | more steps _ ih => exact .more steps (ih further)

/-- A number that collects digits takes a run of them. -/
theorem leads_digits {collecting : List Char → NumberState}
    (collects : ∀ digits c, Text.isDigit c = true →
      (collecting digits).step c = .more (collecting (c :: digits)))
    {run : List Char} (allDigits : ∀ c ∈ run, Text.isDigit c = true) (digits : List Char) :
    Leads (collecting digits) run (collecting (run.reverse ++ digits)) := by
  induction run generalizing digits with
  | nil => exact .done _
  | cons c run ih =>
      rcases List.forall_mem_cons.mp allDigits with ⟨digit, others⟩
      rw [List.reverse_cons, List.append_assoc]
      exact .more (collects digits c digit) (ih others (c :: digits))

/-- A number may end in this state, as the numeral, when the value ends. -/
structure EndsAs (state : NumberState) (numeral : Numeral) : Prop where
  finish : state.finish = some numeral
  stops : ∀ c ∈ [',', ']', '}'], state.step c = .ended

theorem leads_whole (negative : Bool) {whole : List Char} (isWhole : Numeral.IsWholePart whole) :
    ∃ state, Leads (signed negative) whole state ∧ state.EndsAs ⟨negative, whole, none, none⟩ ∧
      state.step '.' = .more (point negative whole) ∧
      state.step 'e' = .more (exponent negative whole none 'e') := by
  rcases isWhole with rfl | ⟨first, rest, rfl, nonzero, digit, others⟩
  · refine ⟨zero negative, .more rfl (.done _), ⟨rfl, ?_⟩, rfl, rfl⟩
    simp [step, afterDigits, Text.isDigit]
  · have begins : (signed negative).step first = .more (integral negative [first]) := by
      simp [step, nonzero, digit]
    have collects : ∀ digits c, Text.isDigit c = true →
        (integral negative digits).step c = .more (integral negative (c :: digits)) := by
      intro digits c isDigit
      simp [step, isDigit]
    refine ⟨_, .more begins (leads_digits collects others [first]), ⟨?_, ?_⟩, ?_, ?_⟩ <;>
      simp [finish, step, afterDigits, Text.isDigit]

theorem leads_fraction (negative : Bool) (whole : List Char) {digits : List Char}
    (run : Numeral.IsRun digits) :
    ∃ state, Leads (point negative whole) digits state ∧
      state.EndsAs ⟨negative, whole, some digits, none⟩ ∧
      state.step 'e' = .more (exponent negative whole (some digits) 'e') := by
  rcases run with ⟨nonempty, allDigits⟩
  cases digits with
  | nil => contradiction
  | cons first rest =>
      rcases List.forall_mem_cons.mp allDigits with ⟨digit, others⟩
      have begins : (point negative whole).step first =
          .more (fractional negative whole [first]) := by
        simp [step, digit]
      have collects : ∀ digits c, Text.isDigit c = true →
          (fractional negative whole digits).step c =
            .more (fractional negative whole (c :: digits)) := by
        intro digits c isDigit
        simp [step, isDigit]
      refine ⟨_, .more begins (leads_digits collects others [first]), ⟨?_, ?_⟩, ?_⟩ <;>
        simp [finish, step, afterDigits, Text.isDigit]

theorem leads_exponent (negative : Bool) (whole : List Char) (fraction : Option (List Char))
    {sign : Char} (isSign : sign = '+' ∨ sign = '-') {digits : List Char}
    (run : Numeral.IsRun digits) :
    ∃ state, Leads (exponent negative whole fraction 'e') (sign :: digits) state ∧
      state.EndsAs ⟨negative, whole, fraction, some ⟨'e', some sign, digits⟩⟩ := by
  rcases run with ⟨nonempty, allDigits⟩
  cases digits with
  | nil => contradiction
  | cons first rest =>
      rcases List.forall_mem_cons.mp allDigits with ⟨digit, others⟩
      have signs : (exponent negative whole fraction 'e').step sign =
          .more (exponentSign negative whole fraction 'e' sign) := by
        rcases isSign with rfl | rfl <;> simp [step, Text.isDigit]
      have begins : (exponentSign negative whole fraction 'e' sign).step first =
          .more (exponentDigits negative whole fraction 'e' (some sign) [first]) := by
        simp [step, digit]
      have collects : ∀ digits c, Text.isDigit c = true →
          (exponentDigits negative whole fraction 'e' (some sign) digits).step c =
            .more (exponentDigits negative whole fraction 'e' (some sign) (c :: digits)) := by
        intro digits c isDigit
        simp [step, isDigit]
      refine ⟨_, .more signs (.more begins (leads_digits collects others [first])), ⟨?_, ?_⟩⟩ <;>
        simp [finish, step, Text.isDigit]

/-- The characters of a well-formed numeral lead to a state that ends as the numeral. -/
theorem leads_unsigned {numeral : Numeral} (wellFormed : numeral.WellFormed) :
    ∃ state, Leads (signed numeral.negative) numeral.unsigned state ∧ state.EndsAs numeral := by
  rcases numeral with ⟨negative, whole, fraction, exponent⟩
  rcases leads_whole negative wellFormed.whole with
    ⟨afterWhole, wholeLeads, wholeEnds, takesPoint, wholeTakesLetter⟩
  have beforeExponent : ∃ state,
      Leads (signed negative) (whole ++ fraction.elim [] fun digits => '.' :: digits) state ∧
        state.EndsAs ⟨negative, whole, fraction, none⟩ ∧
        state.step 'e' = .more (.exponent negative whole fraction 'e') := by
    cases fraction with
    | none => exact ⟨afterWhole, by simpa using wholeLeads, wholeEnds, wholeTakesLetter⟩
    | some digits =>
        rcases leads_fraction negative whole (wellFormed.fraction digits rfl) with
          ⟨state, fractionLeads, ends, takesLetter⟩
        exact ⟨state, wholeLeads.append (.more takesPoint fractionLeads), ends, takesLetter⟩
  rcases beforeExponent with ⟨state, leads, ends, takesLetter⟩
  cases exponent with
  | none => exact ⟨state, by simpa [Numeral.unsigned] using leads, ends⟩
  | some exponent =>
      rcases exponent with ⟨letter, sign, digits⟩
      rcases wellFormed.exponent _ rfl with ⟨rfl, ⟨sign, isSign, rfl⟩, run⟩
      rcases leads_exponent negative whole fraction isSign run with
        ⟨last, exponentLeads, lastEnds⟩
      exact ⟨last, leads.append (.more takesLetter exponentLeads), lastEnds⟩

/-- A number begins with a digit behind its sign. -/
theorem isDigit_of_signed_step {negative : Bool} {c : Char} {next : NumberState}
    (steps : (signed negative).step c = .more next) : Text.isDigit c = true := by
  simp only [step] at steps
  split_ifs at steps with zero digit
  · subst zero
    rfl
  · exact digit

theorem exists_first_step {numeral : Numeral} (wellFormed : numeral.WellFormed) :
    ∃ c rest next, numeral.unsigned = c :: rest ∧
      (signed numeral.negative).step c = .more next := by
  rcases leads_unsigned wellFormed with ⟨state, leads, -⟩
  have nonempty : numeral.unsigned ≠ [] := by
    simp [Numeral.unsigned, (Numeral.isRun_of_isWholePart wellFormed.whole).1]
  cases text : numeral.unsigned with
  | nil => contradiction
  | cons c rest =>
      rw [text] at leads
      cases leads with
      | more steps further => exact ⟨c, rest, _, rfl, steps⟩

end NumberState

end TransactionLedger.Json
