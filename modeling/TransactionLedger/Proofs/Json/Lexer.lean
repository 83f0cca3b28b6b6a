import Mathlib.Tactic.IntervalCases
import TransactionLedger.Json.Node
import TransactionLedger.Json.Printer
import TransactionLedger.Json.Spelling
import TransactionLedger.Proofs.Json.Numeral

/-!
# Strings and numerals as tokens

A printed string is cut into one token whose spelling denotes the string. A numeral is cut into one
token if something follows it that ends a number.
-/

namespace TransactionLedger.Json

/-- The tokens that the lexer cuts from the rest of a document. -/
def Lexer.cut (lexer : Lexer) (source : Source) : List Token :=
  lexer.run [] source

namespace Lexer

theorem run_eq (lexer : Lexer) (done : List Token) (source : Source) :
    lexer.run done source = done.reverse ++ lexer.cut source := by
  induction source generalizing lexer done with
  | nil => simp [run, cut]
  | cons c more ih =>
      simp only [run, cut]
      rw [ih, ih _ (_ ++ [])]
      simp

theorem cut_cons {lexer next : Lexer} {c : Option Char} {tokens : List Token} (source : Source)
    (step : lexer.step c = (tokens, next)) :
    lexer.cut (c :: source) = tokens ++ next.cut source := by
  simp only [cut, run, step]
  rw [run_eq]
  simp [cut]

theorem tokens_eq (source : Source) : tokens source = between.cut source :=
  rfl

end Lexer

/-! ## Strings -/

/-- How a string is spelled between the quotes. -/
def spelling (text : String) : Source :=
  Source.ofText (text.toList.flatMap escaped)

/-- The character can stand in a string as it is. -/
def IsPlain (c : Char) : Prop :=
  c ≠ '"' ∧ c ≠ '\\' ∧ 32 ≤ c.toNat

theorem hexPadded_control {n : Nat} (control : n < 32) :
    ∃ first second third fourth, Text.hexPadded 4 n = [first, second, third, fourth] ∧
      hexUnit? first second third fourth = some n := by
  interval_cases n <;> exact ⟨_, _, _, _, rfl, rfl⟩

/-- The ways of writing a character inside a string. -/
theorem escaped_cases (c : Char) :
    (∃ letter, escaped c = ['\\', letter] ∧ Lexer.isSimpleEscape letter = true ∧
      simpleEscape letter = c) ∨
    (escaped c = '\\' :: 'u' :: Text.hexPadded 4 c.toNat ∧ c.toNat < 32) ∨
    (escaped c = [c] ∧ IsPlain c) := by
  simp only [escaped]
  split_ifs with quote backslash newline carriage tab backspace feed control
  · exact .inl ⟨'"', rfl, rfl, quote.symm⟩
  · exact .inl ⟨'\\', rfl, rfl, backslash.symm⟩
  · exact .inl ⟨'n', rfl, rfl, newline.symm⟩
  · exact .inl ⟨'r', rfl, rfl, carriage.symm⟩
  · exact .inl ⟨'t', rfl, rfl, tab.symm⟩
  · exact .inl ⟨'b', rfl, rfl, backspace.symm⟩
  · exact .inl ⟨'f', rfl, rfl, feed.symm⟩
  · exact .inr (.inl ⟨rfl, control⟩)
  · exact .inr (.inr ⟨rfl, quote, backslash, by omega⟩)

theorem hexValue?_isSome {first second third fourth : Char} {unit : Nat}
    (read : hexUnit? first second third fourth = some unit) :
    ∃ a b c d, Text.hexValue? first = some a ∧ Text.hexValue? second = some b ∧
      Text.hexValue? third = some c ∧ Text.hexValue? fourth = some d := by
  simp only [hexUnit?, Option.bind_eq_bind, Option.bind_eq_some_iff] at read
  rcases read with ⟨a, firstRead, b, secondRead, c, thirdRead, d, fourthRead, -⟩
  exact ⟨a, b, c, d, firstRead, secondRead, thirdRead, fourthRead⟩

@[simp]
theorem ofText_append (front back : List Char) :
    Source.ofText (front ++ back) = Source.ofText front ++ Source.ofText back :=
  List.map_append

@[simp]
theorem ofText_cons (c : Char) (text : List Char) :
    Source.ofText (c :: text) = some c :: Source.ofText text :=
  rfl

@[simp]
theorem ofText_nil : Source.ofText [] = [] :=
  rfl

namespace Lexer

theorem step_unicode {c : Char} {value missing : Nat} (spelling : Source)
    (digit : Text.hexValue? c = some value) :
    (unicode spelling (missing + 2)).step (some c) =
      ([], unicode (some c :: spelling) (missing + 1)) := by
  simp [step, digit]

theorem cut_escaped (c : Char) (done source : Source) :
    (string done).cut (Source.ofText (escaped c) ++ source) =
      (string ((Source.ofText (escaped c)).reverse ++ done)).cut source := by
  rcases escaped_cases c with ⟨letter, written, simple, -⟩ | ⟨written, control⟩ | ⟨written, plain⟩
  · rw [written]
    have backslash : (string done).step (some '\\') = ([], escape (some '\\' :: done)) := rfl
    have done : (escape (some '\\' :: done)).step (some letter) =
        ([], string (some letter :: some '\\' :: done)) := by
      simp [step, simple]
    simp only [ofText_cons, ofText_nil, List.cons_append, List.nil_append, cut_cons _ backslash,
      cut_cons _ done]
    rfl
  · rcases hexPadded_control control with ⟨first, second, third, fourth, digits, read⟩
    rcases hexValue?_isSome read with ⟨a, b, c, d, firstRead, secondRead, thirdRead, fourthRead⟩
    rw [written, digits]
    have backslash : (string done).step (some '\\') = ([], escape (some '\\' :: done)) := rfl
    have opens (spelling : Source) : (escape spelling).step (some 'u') =
        ([], unicode (some 'u' :: spelling) 4) := rfl
    have last (spelling : Source) : (unicode spelling 1).step (some fourth) =
        ([], string (some fourth :: spelling)) := by
      simp [step, fourthRead]
    simp [cut_cons _ backslash, cut_cons _ (opens _), cut_cons _ (step_unicode _ firstRead),
      cut_cons _ (step_unicode _ secondRead), cut_cons _ (step_unicode _ thirdRead),
      cut_cons _ (last _)]
  · rw [written]
    have goesOn : (string done).step (some c) = ([], string (some c :: done)) := by
      simp [step, plain.1, plain.2.1, Nat.not_lt.mpr plain.2.2]
    simp [cut_cons _ goesOn]

theorem cut_escapes (text : List Char) (done source : Source) :
    (string done).cut (Source.ofText (text.flatMap escaped) ++ source) =
      (string ((Source.ofText (text.flatMap escaped)).reverse ++ done)).cut source := by
  induction text generalizing done with
  | nil => rfl
  | cons c text ih => simp [cut_escaped, ih]

/-- A printed string is one token. -/
theorem cut_quoted (text : String) (source : Source) :
    between.cut (Source.ofText (quoted text) ++ source) =
      .string (spelling text) :: between.cut source := by
  have opens : between.step (some '"') = ([], string []) := rfl
  have closes (done : Source) : (string done).step (some '"') = ([.string done.reverse], between) :=
    rfl
  simp [quoted, cut_cons _ opens, cut_escapes, cut_cons _ (closes _), spelling]

end Lexer

/-! ## What a spelling denotes -/

theorem nextChar?_escaped (c : Char) (source : Source) :
    nextChar? (Source.ofText (escaped c) ++ source) = some (c, source) := by
  rcases escaped_cases c with
    ⟨letter, written, simple, same⟩ | ⟨written, control⟩ | ⟨written, plain⟩
  · have notUnicode : letter ≠ 'u' := by
      rintro rfl
      contradiction
    rw [written]
    simp [nextChar?, notUnicode, same]
  · rcases hexPadded_control control with ⟨first, second, third, fourth, digits, read⟩
    rw [written, digits]
    have notLow : isLowSurrogate c.toNat = false := by
      simp [isLowSurrogate]
      omega
    have notHigh : isHighSurrogate c.toNat = false := by
      simp [isHighSurrogate]
      omega
    simp [nextChar?, read, notLow, notHigh]
  · have visible := plain.2.1
    rw [written]
    simp [nextChar?, visible]

theorem decodeOnto_of_nextChar? {source rest : Source} {c : Char} (done : List Char)
    (next : nextChar? source = some (c, rest)) :
    decodeOnto done source = decodeOnto (c :: done) rest := by
  cases source with
  | nil => simp [nextChar?] at next
  | cons first more =>
      rw [decodeOnto]
      split
      · rename_i found
        rw [next] at found
        rcases Option.some.inj found with ⟨rfl, rfl⟩
        rfl
      · rename_i found
        rw [next] at found
        contradiction

theorem decodeOnto_escapes (text done : List Char) :
    decodeOnto done (Source.ofText (text.flatMap escaped)) = some (done.reverse ++ text) := by
  induction text generalizing done with
  | nil => simp [decodeOnto]
  | cons c text ih =>
      rw [List.flatMap_cons, ofText_append,
        decodeOnto_of_nextChar? done (nextChar?_escaped c _), ih]
      simp

/-- A printed string denotes the string. -/
@[simp]
theorem spelledText?_spelling (text : String) : spelledText? (spelling text) = some text := by
  simp [spelledText?, spelling, decodeOnto_escapes]

/-! ## Numbers -/

/-- What follows can follow a value inside an array or an object, or nothing follows. -/
def EndsValue (source : Source) : Prop :=
  ∀ c ∈ source.head?, c = some ',' ∨ c = some ']' ∨ c = some '}'

namespace Lexer

theorem cut_number {state : NumberState} {numeral : Numeral} {source : Source}
    (ends : EndsValue source) (endsAs : state.EndsAs numeral) :
    (number state).cut source = .number numeral :: between.cut source := by
  cases source with
  | nil => simp [cut, run, finish, endsAs.finish]
  | cons c more =>
      have delimiter := ends c rfl
      have stopped : ∃ d ∈ [',', ']', '}'], c = some d := by
        rcases delimiter with rfl | rfl | rfl <;> simp
      rcases stopped with ⟨d, inside, rfl⟩
      have steps : (number state).step (some d) =
          (.number numeral :: (start d).1, (start d).2) := by
        simp [step, endsAs.stops d inside, endsAs.finish]
      have starts : between.step (some d) = ((start d).1, (start d).2) := rfl
      rw [cut_cons _ steps, cut_cons _ starts]
      rfl

theorem step_of_more {state next : NumberState} {c : Char} (steps : state.step c = .more next) :
    (number state).step (some c) = ([], number next) := by
  simp only [step, steps]

theorem cut_leads {first last : NumberState} {front : List Char}
    (leads : NumberState.Leads first front last) (source : Source) :
    (number first).cut (Source.ofText front ++ source) = (number last).cut source := by
  induction leads with
  | done state => rfl
  | more steps _ ih => exact (cut_cons _ (step_of_more steps)).trans ih

/-- A number without a sign begins as one behind a sign goes on. -/
theorem start_of_more {next : NumberState} {c : Char}
    (steps : (NumberState.signed false).step c = .more next) : start c = ([], number next) := by
  have digit := NumberState.isDigit_of_signed_step steps
  have apart (d : Char) (other : Text.isDigit d = false) : c ≠ d := by
    rintro rfl
    rw [digit] at other
    contradiction
  have lead : start c =
      if c = '0' then ([], number (.zero false)) else ([], number (.integral false [c])) := by
    simp [start, isSpace, apart ' ' rfl, apart '\t' rfl, apart '\n' rfl, apart '\r' rfl,
      apart '{' rfl, apart '}' rfl, apart '[' rfl, apart ']' rfl, apart ',' rfl, apart ':' rfl,
      apart '"' rfl, apart '-' rfl, digit]
  rw [lead]
  simp only [NumberState.step, digit, if_true] at steps
  split_ifs at steps ⊢ <;> rw [NumberState.Outcome.more.inj steps]

/-- A numeral is one token. -/
theorem cut_numeral {numeral : Numeral} (wellFormed : numeral.WellFormed) {source : Source}
    (ends : EndsValue source) :
    between.cut (Source.ofText numeral.text ++ source) = .number numeral :: between.cut source := by
  rcases NumberState.leads_unsigned wellFormed with ⟨state, leads, endsAs⟩
  have complete : (number (.signed numeral.negative)).cut
      (Source.ofText numeral.unsigned ++ source) = .number numeral :: between.cut source := by
    rw [cut_leads leads, cut_number ends endsAs]
  rw [wellFormed.text_eq, ← complete]
  cases sign : numeral.negative with
  | true => exact cut_cons _ rfl
  | false =>
      rcases NumberState.exists_first_step wellFormed with ⟨c, rest, next, starts, steps⟩
      rw [sign] at steps
      rw [starts]
      have opens : between.step (some c) = ([], number next) := start_of_more steps
      exact (cut_cons _ opens).trans (cut_cons _ (step_of_more steps)).symm

end Lexer

end TransactionLedger.Json
