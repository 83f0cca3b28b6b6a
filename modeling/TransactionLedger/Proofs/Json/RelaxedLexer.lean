import TransactionLedger.Json.RelaxedLexer
import TransactionLedger.Proofs.Json.Lexer
import TransactionLedger.Proofs.Json.PrintedNumber

/-!
# Printed text in the relaxed dialect

In the relaxed dialect, too, a printed value is cut into one token for each of its marks, strings,
numbers and constants. Constants are bare words here, and the text behind a number or a constant
must show that it has ended.
-/

namespace TransactionLedger.Json

namespace RelaxedLexer

/-- The tokens that the lexer cuts from the rest of a text. -/
def cut (lexer : RelaxedLexer) (text : List Char) : List Token :=
  lexer.run [] text

theorem run_eq (lexer : RelaxedLexer) (done : List Token) (text : List Char) :
    lexer.run done text = done.reverse ++ lexer.cut text := by
  induction text generalizing lexer done with
  | nil => simp [run, cut]
  | cons c more ih =>
      simp only [run, cut]
      rw [ih, ih _ (_ ++ [])]
      simp

theorem cut_cons {lexer next : RelaxedLexer} {c : Char} {tokens : List Token} (text : List Char)
    (step : lexer.step c = (tokens, next)) : lexer.cut (c :: text) = tokens ++ next.cut text := by
  simp only [cut, run, step]
  rw [run_eq]
  simp [cut]

/-- The text begins with what may stand behind a value in an array or object, or is empty. -/
def Delimited (text : List Char) : Prop :=
  ∀ c ∈ text.head?, c ∈ [',', ']', '}']

/-- A token that the next character ends is complete before a delimiter. -/
theorem cut_of_resumes {lexer : RelaxedLexer} {token : Token} {text : List Char}
    (delimited : Delimited text) (finishes : lexer.finish = [token])
    (resumes : ∀ c ∈ [',', ']', '}'], lexer.step c = resume token c) :
    lexer.cut text = token :: between.cut text := by
  cases text with
  | nil =>
      rw [cut, run, finishes]
      rfl
  | cons c more =>
      have steps : lexer.step c = (token :: (start c).1, (start c).2) :=
        resumes c (delimited c rfl)
      have starts : between.step c = ((start c).1, (start c).2) := rfl
      rw [cut_cons _ steps, cut_cons _ starts]
      rfl

/-! ## Strings -/

theorem step_unicode {c : Char} {value missing : Nat} (done : Source)
    (digit : Text.hexValue? c = some value) :
    (unicode '"' done (missing + 2)).step c = ([], unicode '"' (some c :: done) (missing + 1)) := by
  simp [step, digit]

theorem cut_escaped (c : Char) (done : Source) (text : List Char) :
    (string '"' done).cut (escaped c ++ text) =
      (string '"' ((Source.ofText (escaped c)).reverse ++ done)).cut text := by
  have backslash : (string '"' done).step '\\' = ([], escape '"' (some '\\' :: done)) := rfl
  rcases escaped_cases c with ⟨letter, written, simple, -⟩ | ⟨written, control⟩ | ⟨written, plain⟩
  · rw [written]
    have complete : (escape '"' (some '\\' :: done)).step letter =
        ([], string '"' (some letter :: some '\\' :: done)) := by
      simp [step, isSimpleEscape, simple]
    simp only [List.cons_append, List.nil_append, cut_cons _ backslash, cut_cons _ complete]
    rfl
  · rcases hexPadded_control control with ⟨first, second, third, fourth, digits, read⟩
    rcases hexValue?_isSome read with ⟨a, b, c, d, firstRead, secondRead, thirdRead, fourthRead⟩
    rw [written, digits]
    have opens (done : Source) : (escape '"' done).step 'u' =
        ([], unicode '"' (some 'u' :: done) 4) := rfl
    have last (done : Source) : (unicode '"' done 1).step fourth =
        ([], string '"' (some fourth :: done)) := by
      simp [step, fourthRead]
    simp [cut_cons _ backslash, cut_cons _ (opens _), cut_cons _ (step_unicode _ firstRead),
      cut_cons _ (step_unicode _ secondRead), cut_cons _ (step_unicode _ thirdRead),
      cut_cons _ (last _)]
  · rw [written]
    have goesOn : (string '"' done).step c = ([], string '"' (some c :: done)) := by
      simp [step, inString, plain.1, plain.2.1, Nat.not_lt.mpr plain.2.2]
    simp [cut_cons _ goesOn]

theorem cut_escapes (text rest : List Char) (done : Source) :
    (string '"' done).cut (text.flatMap escaped ++ rest) =
      (string '"' ((Source.ofText (text.flatMap escaped)).reverse ++ done)).cut rest := by
  induction text generalizing done with
  | nil => rfl
  | cons c text ih => simp [cut_escaped, ih]

/-- A printed string is one token. -/
theorem cut_quoted (text : String) (rest : List Char) :
    between.cut (quoted text ++ rest) = .string (spelling text) :: between.cut rest := by
  have opens : between.step '"' = ([], string '"' []) := rfl
  have closes (done : Source) : (string '"' done).step '"' = ([.string done.reverse], between) :=
    rfl
  simp [quoted, cut_cons _ opens, cut_escapes, cut_cons _ (closes _), spelling]

/-! ## Numbers -/

theorem relaxedStep_of_more {state next : NumberState} {c : Char}
    (steps : state.step c = .more next) : state.relaxedStep c = .more next := by
  unfold NumberState.relaxedStep
  split
  · split_ifs with point
    · subst point
      contradiction
    · exact steps
  · simp only [NumberState.step] at steps
    split_ifs at steps ⊢
    exact steps
  · exact steps

theorem relaxedStep_of_ended {state : NumberState} {c : Char} (steps : state.step c = .ended) :
    state.relaxedStep c = .ended := by
  unfold NumberState.relaxedStep
  split
  · split_ifs with point
    · subst point
      contradiction
    · exact steps
  · simp only [NumberState.step] at steps
    split_ifs at steps
  · exact steps

theorem relaxedFinish_of_finish {state : NumberState} {numeral : Numeral}
    (finishes : state.finish = some numeral) : state.relaxedFinish = some numeral := by
  cases state with
  | point negative whole => contradiction
  | _ => exact finishes

theorem step_of_more {state next : NumberState} {c : Char} (steps : state.step c = .more next) :
    (number state).step c = ([], number next) := by
  simp only [step]
  unfold inNumber
  split
  · contradiction
  · contradiction
  · contradiction
  · contradiction
  · rw [relaxedStep_of_more steps]

theorem step_of_endsAs {state : NumberState} {numeral : Numeral} (ends : state.EndsAs numeral)
    {c : Char} (delimiter : c ∈ [',', ']', '}']) :
    (number state).step c = resume (.number numeral) c := by
  simp only [step]
  unfold inNumber
  split
  · contradiction
  · contradiction
  · contradiction
  · contradiction
  · rw [relaxedStep_of_ended (ends.stops c delimiter), relaxedFinish_of_finish ends.finish]

theorem cut_leads {first last : NumberState} {front : List Char}
    (leads : NumberState.Leads first front last) (rest : List Char) :
    (number first).cut (front ++ rest) = (number last).cut rest := by
  induction leads with
  | done state => rfl
  | more steps _ ih => exact (cut_cons _ (step_of_more steps)).trans ih

theorem isRelaxedSpace_of_isDigit {c : Char} (digit : Text.isDigit c = true) :
    isRelaxedSpace c = false := by
  rw [Text.isDigit_iff] at digit
  have apart (d : Char) (other : d.toNat < 48) : c ≠ d := by
    rintro rfl
    omega
  simp [isRelaxedSpace, isSpace, apart]
  omega

/-- A number without a sign begins as one behind a sign goes on. -/
theorem start_of_more {next : NumberState} {c : Char}
    (steps : (NumberState.signed false).step c = .more next) : start c = ([], number next) := by
  have digit := NumberState.isDigit_of_signed_step steps
  have apart (d : Char) (other : Text.isDigit d = false) : c ≠ d := by
    rintro rfl
    rw [digit] at other
    contradiction
  have lead : start c =
      if c = '0' then ([], number (.zero false)) else ([], number (.integral false [c])) := by
    simp [start, isRelaxedSpace_of_isDigit digit, digit, apart '\x00' rfl, apart '/' rfl,
      apart '{' rfl, apart '}' rfl, apart '[' rfl, apart ']' rfl, apart ',' rfl, apart ':' rfl,
      apart '"' rfl, apart '\'' rfl, apart '-' rfl, apart '+' rfl, apart '.' rfl]
  rw [lead]
  simp only [NumberState.step, digit, if_true] at steps
  split_ifs at steps ⊢ <;> rw [NumberState.Outcome.more.inj steps]

/-- A numeral is one token. -/
theorem cut_numeral {numeral : Numeral} (wellFormed : numeral.WellFormed) {rest : List Char}
    (delimited : Delimited rest) :
    between.cut (numeral.text ++ rest) = .number numeral :: between.cut rest := by
  rcases NumberState.leads_unsigned wellFormed with ⟨state, leads, ends⟩
  have complete : (number (.signed numeral.negative)).cut (numeral.unsigned ++ rest) =
      .number numeral :: between.cut rest := by
    rw [cut_leads leads]
    apply cut_of_resumes delimited
    · simp only [finish, relaxedFinish_of_finish ends.finish]
    · intro c
      exact step_of_endsAs ends
  rw [wellFormed.text_eq, ← complete]
  cases sign : numeral.negative with
  | true => exact cut_cons _ rfl
  | false =>
      rcases NumberState.exists_first_step wellFormed with ⟨c, rest, next, starts, steps⟩
      rw [sign] at steps
      rw [starts]
      have opens : between.step c = ([], number next) := start_of_more steps
      exact (cut_cons _ opens).trans (cut_cons _ (step_of_more steps)).symm

/-! ## Constants -/

/-- A bare word is one token. -/
theorem cut_word {first : Char} {others rest : List Char}
    (starts : start first = ([], word [first]))
    (goesOn : (others.all fun c => isWordPart c && !isRelaxedSpace c) = true)
    (delimited : Delimited rest) :
    between.cut (first :: others ++ rest) = .word (first :: others) :: between.cut rest := by
  have collects (others : List Char) (goesOn : ∀ c ∈ others,
      (isWordPart c && !isRelaxedSpace c) = true) (done : List Char) :
      (word done).cut (others ++ rest) = (word (others.reverse ++ done)).cut rest := by
    induction others generalizing done with
    | nil => rfl
    | cons c others ih =>
        rcases List.forall_mem_cons.mp goesOn with ⟨part, more⟩
        have steps : (word done).step c = ([], word (c :: done)) := by
          simp only [step, if_pos part]
        rw [List.cons_append, cut_cons _ steps, ih more]
        simp
  have opens : between.step first = ([], word [first]) := starts
  rw [List.cons_append, cut_cons _ opens, collects others (List.all_eq_true.mp goesOn)]
  apply cut_of_resumes delimited
  · simp [finish]
  · simp [step, isWordPart, isWordStart, Text.isDigit]

end RelaxedLexer

end TransactionLedger.Json
