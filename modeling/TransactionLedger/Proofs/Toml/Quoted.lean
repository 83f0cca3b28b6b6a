import Mathlib.Tactic.IntervalCases
import Mathlib.Tactic.SplitIfs
import TransactionLedger.Proofs.Outcome
import TransactionLedger.Toml.Printer
import TransactionLedger.Toml.Quoted

/-!
# Written strings read back

However a string is written, between single or double quotes, on one line or on several, it is read
back as it was, and what stands behind it is left.
-/

namespace TransactionLedger.Toml

namespace QuoteState

variable {style : QuoteStyle} {state next : QuoteState} {c : Char} {added done text rest : List Char}

theorem run_of_more (stepped : state.step style c = .more next added) :
    run style state done (c :: rest) = run style next (added ++ done) rest := by
  rw [run]
  simp only [stepped]

/-! ## Between double quotes -/

/-- The style of strings with escapes. -/
abbrev basic (multiline : Bool) : QuoteStyle :=
  ⟨'"', multiline⟩

variable {multiline : Bool}

/-- The number that four hexadecimal digits denote. -/
def unicodeValue? (first second third fourth : Char) : Option Nat := do
  return 16 * (16 * (16 * (← Text.hexValue? first) + (← Text.hexValue? second)) +
    (← Text.hexValue? third)) + (← Text.hexValue? fourth)

theorem run_unicode {first second third fourth : Char} {value : Nat}
    (spelled : unicodeValue? first second third fourth = some value)
    (valid : value.isValidChar) :
    run (basic multiline) slash done ('u' :: first :: second :: third :: fourth :: rest) =
      run (basic multiline) plain (Char.ofNat value :: done) rest := by
  simp only [unicodeValue?, Option.bind_eq_bind, Option.bind_eq_some_iff, Option.pure_def,
    Option.some.injEq] at spelled
  rcases spelled with ⟨a, firstValue, b, secondValue, c, thirdValue, d, fourthValue, rfl⟩
  have start : slash.step (basic multiline) 'u' = .more (unicode 4 0) [] := rfl
  rw [run_of_more start]
  have digit {missing before value : Nat} {c : Char} (read : Text.hexValue? c = some value)
      (several : 1 < missing) : (unicode missing before).step (basic multiline) c =
        .more (unicode (missing - 1) (16 * before + value)) [] := by
    simp only [step, unicodeStep, read, if_pos several]
  have last : (unicode 1 (16 * (16 * (16 * 0 + a) + b) + c)).step (basic multiline) fourth =
      .more plain [Char.ofNat (16 * (16 * (16 * a + b) + c) + d)] := by
    simp only [step, unicodeStep, fourthValue]
    simp [valid]
  rw [run_of_more (digit firstValue (by omega)), run_of_more (digit secondValue (by omega)),
    run_of_more (digit thirdValue (by omega)), run_of_more last]
  rfl

theorem unicodeValue?_hexPadded {n : Nat} (control : n < 32 ∨ n = 127) :
    ∃ first second third fourth,
      (Text.hexPadded 4 n).map Char.toUpper = [first, second, third, fourth] ∧
        unicodeValue? first second third fourth = some n := by
  rcases control with low | rfl
  · interval_cases n <;> exact ⟨_, _, _, _, rfl, rfl⟩
  · exact ⟨_, _, _, _, rfl, rfl⟩

/-- The ways of writing a character between double quotes. -/
theorem escaped_cases (multiline : Bool) (c : Char) :
    (∃ letter, escaped multiline c = ['\\', letter] ∧ simpleEscape? letter = some c) ∨
    (escaped multiline c = '\\' :: 'u' :: (Text.hexPadded 4 c.toNat).map Char.toUpper ∧
      (c.toNat < 32 ∨ c.toNat = 127)) ∨
    (escaped multiline c = [c] ∧ plain.step (basic multiline) c = .more plain [c]) := by
  simp only [escaped]
  split_ifs with backspace tab newline several feed carriage quote backslash control
  · exact .inl ⟨'b', rfl, congrArg some backspace.symm⟩
  · exact .inl ⟨'t', rfl, congrArg some tab.symm⟩
  · rcases newline with rfl
    rcases several with rfl
    exact .inr (.inr ⟨rfl, rfl⟩)
  · exact .inl ⟨'n', rfl, congrArg some newline.symm⟩
  · exact .inl ⟨'f', rfl, congrArg some feed.symm⟩
  · exact .inl ⟨'r', rfl, congrArg some carriage.symm⟩
  · exact .inl ⟨'"', rfl, congrArg some quote.symm⟩
  · exact .inl ⟨'\\', rfl, congrArg some backslash.symm⟩
  · exact .inr (.inl ⟨rfl, control⟩)
  · refine .inr (.inr ⟨rfl, ?_⟩)
    have plainChar : isPlain c = true := by
      simp only [isPlain, Bool.or_eq_true, Bool.and_eq_true, decide_eq_true_eq]
      omega
    simp [step, plainStep, quote, backslash, newline, carriage, plainChar]

theorem run_escaped (c : Char) :
    run (basic multiline) plain done (escaped multiline c ++ rest) =
      run (basic multiline) plain (c :: done) rest := by
  have slashed : plain.step (basic multiline) '\\' = .more slash [] := rfl
  rcases escaped_cases multiline c with ⟨letter, spelled, means⟩ | ⟨spelled, control⟩ |
    ⟨spelled, stepped⟩
  · have read : slash.step (basic multiline) letter = .more plain [c] := by
      simp only [step, slashStep, means]
    rw [spelled, List.cons_append, run_of_more slashed, List.cons_append, run_of_more read]
    rfl
  · rcases unicodeValue?_hexPadded control with ⟨first, second, third, fourth, digits, value⟩
    rw [spelled, digits, List.cons_append, run_of_more slashed]
    have char : Char.ofNat c.toNat = c := Char.ofNat_toNat c
    exact (run_unicode value c.valid).trans (by rw [char]; rfl)
  · rw [spelled, List.cons_append, run_of_more stepped]
    rfl

theorem run_flatMap_escaped (text : List Char) :
    run (basic multiline) plain done (text.flatMap (escaped multiline) ++ rest) =
      run (basic multiline) plain (text.reverse ++ done) rest := by
  induction text generalizing done with
  | nil => rfl
  | cons c text ih =>
      rw [List.flatMap_cons, List.append_assoc, run_escaped, ih, List.reverse_cons,
        List.append_assoc]
      rfl

/-! ## Between single quotes -/

/-- The style of strings without escapes. -/
abbrev literal (multiline : Bool) : QuoteStyle :=
  ⟨'\'', multiline⟩

/-- The state behind some quotes of a string on several lines. -/
def pending : Nat → QuoteState
  | 0 => plain
  | count + 1 => quotes (count + 1)

/-- A character that can stand between single quotes is taken as it is. -/
theorem plainStep_literal {before : List Char} (quote : c ≠ '\'') (visible : needsEscape c = false)
    (several : c = '\n' → multiline = true) :
    plainStep (literal multiline) before c = .more plain (c :: before) := by
  have ordinary : c ≠ '\n' → isPlain c = true := by
    intro newline
    simp only [needsEscape, Bool.or_eq_false_iff, Bool.and_eq_false_iff, decide_eq_false_iff_not,
      bne_eq_false_iff_eq, beq_eq_false_iff_ne] at visible
    simp only [isPlain, Bool.or_eq_true, Bool.and_eq_true, beq_iff_eq, decide_eq_true_eq]
    rcases visible.1 with (high | tab) | feed
    · exact .inr ⟨by omega, visible.2⟩
    · exact .inl tab
    · exact absurd feed newline
  have carriage : c ≠ '\r' := by
    rintro rfl
    cases visible
  by_cases newline : c = '\n'
  · rcases newline with rfl
    simp [plainStep, several rfl]
  · simp [plainStep, quote, newline, carriage, ordinary newline]

theorem step_pending_quote {count : Nat} (few : count < 3) :
    (pending count).step (literal true) '\'' = .more (pending (count + 1)) [] := by
  cases count with
  | zero => rfl
  | succ count =>
      have notFour : count + 1 ≠ 4 := by omega
      simp [pending, step, notFour]

theorem step_pending {count : Nat} (few : count < 3) (quote : c ≠ '\'')
    (visible : needsEscape c = false) :
    (pending count).step (literal true) c =
      .more plain (c :: List.replicate count '\'') := by
  have taken (before : List Char) :
      plainStep (literal true) before c = .more plain (c :: before) :=
    plainStep_literal quote visible fun _ => rfl
  cases count with
  | zero => exact taken []
  | succ count =>
      have below : ¬ 3 ≤ count + 1 := by omega
      simp only [pending, step, if_neg quote, if_neg below]
      exact taken _

theorem max_le_longestQuoteRun (text : List Char) (current longest : Nat) :
    max current longest ≤ longestQuoteRun current longest text := by
  induction text generalizing current longest with
  | nil => exact le_rfl
  | cons c text ih =>
      rw [longestQuoteRun]
      split
      · have := ih (current + 1) longest
        omega
      · have := ih 0 (max current longest)
        omega

/-- Fewer than three quotes in a row do not end a string on several lines. -/
theorem run_literal_several {count longest : Nat} (few : longestQuoteRun count longest text < 3)
    (visible : ∀ c ∈ text, needsEscape c = false) (ends : text.getLast? ≠ some '\'')
    (starts : text = [] → count = 0) :
    run (literal true) (pending count) done (text ++ rest) =
      run (literal true) plain (text.reverse ++ (List.replicate count '\'' ++ done)) rest := by
  induction text generalizing count longest done with
  | nil =>
      rcases starts rfl with rfl
      rfl
  | cons c text ih =>
      have fewSoFar : count < 3 := by
        have := max_le_longestQuoteRun (c :: text) count longest
        omega
      rcases List.forall_mem_cons.mp visible with ⟨here, later⟩
      have lastLater : text.getLast? ≠ some '\'' := by
        cases text with
        | nil => exact nofun
        | cons first text => rwa [List.getLast?_cons_cons] at ends
      rw [longestQuoteRun] at few
      rw [List.cons_append]
      split at few
      · rename_i quote
        rcases quote with rfl
        have more : text = [] → count + 1 = 0 := by
          rintro rfl
          exact absurd rfl ends
        rw [run_of_more (step_pending_quote fewSoFar), ih few later lastLater more]
        rw [List.replicate_succ, List.reverse_cons, List.append_assoc]
        rfl
      · rename_i quote
        rw [run_of_more (step_pending fewSoFar quote here)]
        exact (ih few later lastLater fun _ => rfl).trans (by simp)

/-- A text without quotes and line ends stands between single quotes as it is. -/
theorem run_literal (quoteless : '\'' ∉ text) (visible : ∀ c ∈ text, needsEscape c = false)
    (oneLine : '\n' ∉ text) :
    run (literal false) plain done (text ++ rest) =
      run (literal false) plain (text.reverse ++ done) rest := by
  induction text generalizing done with
  | nil => rfl
  | cons c text ih =>
      rcases List.forall_mem_cons.mp visible with ⟨here, later⟩
      rcases not_or.mp (mt List.mem_cons.mpr quoteless) with ⟨quote, quotelessLater⟩
      rcases not_or.mp (mt List.mem_cons.mpr oneLine) with ⟨newline, oneLineLater⟩
      have stepped : plain.step (literal false) c = .more plain [c] :=
        plainStep_literal (Ne.symm quote) here fun same => absurd same.symm newline
      rw [List.cons_append, run_of_more stepped, ih quotelessLater later oneLineLater,
        List.reverse_cons, List.append_assoc]

/-! ## Ends -/

theorem run_close (quote : Char) (text rest : List Char) :
    run ⟨quote, false⟩ plain text.reverse (quote :: rest) = .ok (String.ofList text, rest) := by
  simp [run, step, plainStep]

/-- Three quotes end a string on several lines if no other one follows. -/
theorem run_close_several {quote : Char} (behind : ∀ c ∈ rest.head?, c ≠ quote) :
    run ⟨quote, true⟩ plain text.reverse (triple quote ++ rest) =
      .ok (String.ofList text, rest) := by
  have first : plain.step ⟨quote, true⟩ quote = .more (quotes 1) [] := by
    simp [step, plainStep]
  have further {count : Nat} (few : count < 4) :
      (quotes count).step ⟨quote, true⟩ quote = .more (quotes (count + 1)) [] := by
    simp [step, Nat.ne_of_lt few]
  rw [triple, List.cons_append, run_of_more first, List.cons_append,
    run_of_more (further (by omega)), List.cons_append, run_of_more (further (by omega)),
    List.nil_append]
  cases rest with
  | nil => simp [run, finish?]
  | cons c rest =>
      have other := behind c rfl
      simp [run, step, other]

end QuoteState

/-! ## Whole strings -/

variable {quote : Char} {text body rest : List Char}

theorem expect_cons (c : Char) (rest : List Char) : expect c (c :: rest) = .ok rest := by
  simp [expect]

/-- A string that does not start with three quotes stands on one line. -/
theorem quotedString_line (notThree : ∀ c ∈ body.head?, c ≠ quote)
    (closed : QuoteState.run ⟨quote, false⟩ .plain [] (body ++ quote :: rest) =
      .ok (String.ofList text, rest))
    (behind : ∀ c ∈ rest.head?, c ≠ quote) :
    quotedString quote (quote :: body ++ quote :: rest) = .ok (String.ofList text, rest) := by
  have line : lineString quote (quote :: body ++ quote :: rest) =
      .ok (String.ofList text, rest) := by
    rw [lineString, List.cons_append, expect_cons]
    exact closed
  rw [← line]
  unfold quotedString
  split
  · rename_i a b c more shape
    rw [if_neg, ← shape]
    rintro ⟨-, rfl, rfl⟩
    cases body with
    | nil =>
        rcases List.cons.inj (List.cons.inj shape).2 with ⟨-, rfl⟩
        exact behind c rfl rfl
    | cons first body =>
        rcases List.cons.inj (List.cons.inj shape).2 with ⟨rfl, -⟩
        exact notThree first rfl rfl
  · rfl

theorem quotedString_several (quote : Char) (body : List Char) :
    quotedString quote (triple quote ++ body) =
      QuoteState.run ⟨quote, true⟩ .plain [] (skipFirstLineEnd body) := by
  simp [quotedString, triple]

/-- What is written for a character between double quotes does not start with one. -/
theorem head?_flatMap_escaped (multiline : Bool) (text : List Char) :
    ∀ c ∈ (text.flatMap (escaped multiline)).head?, c ≠ '"' := by
  cases text with
  | nil => exact nofun
  | cons first text =>
      rw [List.flatMap_cons]
      rcases QuoteState.escaped_cases multiline first with ⟨letter, spelled, -⟩ | ⟨spelled, -⟩ |
        ⟨spelled, stepped⟩
      · rw [spelled]
        rintro c ⟨⟩
        decide
      · rw [spelled]
        rintro c ⟨⟩
        decide
      · rw [spelled]
        rintro c ⟨⟩ rfl
        cases multiline <;> cases stepped

theorem quotedString_basicLine (text : List Char) (behind : ∀ c ∈ rest.head?, c ≠ '"') :
    quotedString '"' (between ['"'] ['"'] (text.flatMap (escaped false)) ++ rest) =
      .ok (String.ofList text, rest) := by
  have closed : QuoteState.run ⟨'"', false⟩ .plain []
      (text.flatMap (escaped false) ++ '"' :: rest) = .ok (String.ofList text, rest) := by
    rw [QuoteState.run_flatMap_escaped, List.append_nil, QuoteState.run_close]
  rw [between, List.append_assoc]
  exact quotedString_line (head?_flatMap_escaped false text) closed behind

theorem quotedString_basicSeveral (text : List Char) (behind : ∀ c ∈ rest.head?, c ≠ '"') :
    quotedString '"'
        (between (triple '"' ++ ['\n']) (triple '"') (text.flatMap (escaped true)) ++ rest) =
      .ok (String.ofList text, rest) := by
  rw [between, List.append_assoc, List.append_assoc, List.append_assoc, quotedString_several,
    List.singleton_append, skipFirstLineEnd, QuoteState.run_flatMap_escaped, List.append_nil,
    QuoteState.run_close_several behind]

section Literal

variable (visible : ∀ c ∈ text, needsEscape c = false) (behind : ∀ c ∈ rest.head?, c ≠ '\'')

include visible behind

theorem quotedString_literalLine (quoteless : '\'' ∉ text) (oneLine : '\n' ∉ text) :
    quotedString '\'' (between ['\''] ['\''] text ++ rest) = .ok (String.ofList text, rest) := by
  have closed : QuoteState.run ⟨'\'', false⟩ .plain [] (text ++ '\'' :: rest) =
      .ok (String.ofList text, rest) := by
    rw [QuoteState.run_literal quoteless visible oneLine, List.append_nil, QuoteState.run_close]
  have starts : ∀ c ∈ text.head?, c ≠ '\'' := by
    rintro c here rfl
    exact quoteless (List.mem_of_mem_head? here)
  rw [between, List.append_assoc]
  exact quotedString_line starts closed behind

variable (few : longestQuoteRun 0 0 text < 3) (ends : text.getLast? ≠ some '\'')

include few ends

theorem run_literal_triple :
    QuoteState.run ⟨'\'', true⟩ .plain [] (text ++ (triple '\'' ++ rest)) =
      .ok (String.ofList text, rest) := by
  refine (QuoteState.run_literal_several few visible ends fun _ => rfl).trans ?_
  rw [List.replicate_zero, List.append_nil, List.append_nil]
  exact QuoteState.run_close_several behind

theorem quotedString_literalSeveral :
    quotedString '\'' (between (triple '\'' ++ ['\n']) (triple '\'') text ++ rest) =
      .ok (String.ofList text, rest) := by
  rw [between, List.append_assoc, List.append_assoc, List.append_assoc, quotedString_several,
    List.singleton_append, skipFirstLineEnd]
  exact run_literal_triple visible behind few ends

theorem quotedString_literalTriple (oneLine : '\n' ∉ text) :
    quotedString '\'' (between (triple '\'') (triple '\'') text ++ rest) =
      .ok (String.ofList text, rest) := by
  have kept : skipFirstLineEnd (text ++ (triple '\'' ++ rest)) = text ++ (triple '\'' ++ rest) := by
    cases text with
    | nil => rfl
    | cons c text =>
        have newline : c ≠ '\n' := by
          rintro rfl
          exact oneLine List.mem_cons_self
        have carriage : c ≠ '\r' := by
          rintro rfl
          cases visible '\r' List.mem_cons_self
        unfold skipFirstLineEnd
        split
        · rename_i shape
          exact absurd (List.cons.inj shape).1 newline
        · rename_i shape
          exact absurd (List.cons.inj shape).1 carriage
        · rfl
  rw [between, List.append_assoc, List.append_assoc, quotedString_several, kept]
  exact run_literal_triple visible behind few ends

end Literal

/-- A written string starts with a quote and is read back as it was. -/
theorem quotedString_stringText (text : List Char) {rest : List Char}
    (behind : ∀ c ∈ rest.head?, c ≠ '"' ∧ c ≠ '\'') :
    ∃ quote body, stringText text = quote :: body ∧ (quote = '"' ∨ quote = '\'') ∧
      quotedString quote (stringText text ++ rest) = .ok (String.ofList text, rest) := by
  have behindBasic : ∀ c ∈ rest.head?, c ≠ '"' := fun c here => (behind c here).1
  have behindLiteral : ∀ c ∈ rest.head?, c ≠ '\'' := fun c here => (behind c here).2
  have literal (prefers : prefersLiteral text = true) :
      (∀ c ∈ text, needsEscape c = false) ∧ longestQuoteRun 0 0 text < 3 ∧
        text.getLast? ≠ some '\'' := by
    simp only [prefersLiteral, Bool.and_eq_true, Bool.not_eq_true', decide_eq_true_eq,
      bne_iff_ne, List.any_eq_false, Bool.not_eq_true] at prefers
    exact ⟨prefers.1.2, prefers.1.1.2, prefers.2⟩
  simp only [stringText]
  split_ifs with prefers several quoted several
  · rcases literal prefers with ⟨visible, few, ends⟩
    exact ⟨'\'', _, rfl, .inr rfl, quotedString_literalSeveral visible behindLiteral few ends⟩
  · rcases literal prefers with ⟨visible, few, ends⟩
    have oneLine : '\n' ∉ text := by simpa using several
    exact ⟨'\'', _, rfl, .inr rfl,
      quotedString_literalTriple visible behindLiteral few ends oneLine⟩
  · have oneLine : '\n' ∉ text := by simpa using several
    have quoteless : '\'' ∉ text := by simpa using quoted
    exact ⟨'\'', _, rfl, .inr rfl,
      quotedString_literalLine (literal prefers).1 behindLiteral quoteless oneLine⟩
  · exact ⟨'"', _, rfl, .inl rfl, quotedString_basicSeveral text behindBasic⟩
  · exact ⟨'"', _, rfl, .inl rfl, quotedString_basicLine text behindBasic⟩

end TransactionLedger.Toml
