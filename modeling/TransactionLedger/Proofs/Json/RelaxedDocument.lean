import TransactionLedger.Proofs.Json.Building
import TransactionLedger.Proofs.Json.RelaxedLexer

/-!
# Printed documents in the relaxed dialect

A printed value is read in the relaxed dialect as the node that shows the same numerals and
spellings. The text is first cut into the tokens of the value, and these are then put together.
-/

namespace TransactionLedger.Json

mutual

/-- The tokens of a printed value in the relaxed dialect. -/
def printedTokens : Json → List Token
  | null => [.word ['n', 'u', 'l', 'l']]
  | bool true => [.word ['t', 'r', 'u', 'e']]
  | bool false => [.word ['f', 'a', 'l', 's', 'e']]
  | number value => [.number value.numeral]
  | string value => [.string (spelling value)]
  | array items => .openBracket :: itemTokens items
  | object members => .openBrace :: memberTokens members

/-- The tokens of the items of an array up to the closing bracket. -/
def itemTokens : List Json → List Token
  | [] => [.closeBracket]
  | item :: rest => item.printedTokens ++ furtherItemTokens rest

/-- The tokens of the items after the first one. -/
def furtherItemTokens : List Json → List Token
  | [] => [.closeBracket]
  | item :: rest => .comma :: item.printedTokens ++ furtherItemTokens rest

/-- The tokens of the members of an object up to the closing brace. -/
def memberTokens : List (String × Json) → List Token
  | [] => [.closeBrace]
  | (key, value) :: rest =>
    .string (spelling key) :: .colon :: value.printedTokens ++ furtherMemberTokens rest

/-- The tokens of the members after the first one. -/
def furtherMemberTokens : List (String × Json) → List Token
  | [] => [.closeBrace]
  | (key, value) :: rest =>
    .comma :: .string (spelling key) :: .colon :: value.printedTokens ++ furtherMemberTokens rest

end

/-! ## Cutting -/

namespace RelaxedLexer

theorem delimited_furtherItemsText (items : List Json) (rest : List Char) :
    Delimited (furtherItemsText items ++ rest) := by
  cases items <;> simp [Delimited, furtherItemsText]

theorem delimited_furtherMembersText (members : List (String × Json)) (rest : List Char) :
    Delimited (furtherMembersText members ++ rest) := by
  cases members <;> simp [Delimited, furtherMembersText]

theorem cut_mark {c : Char} {token : Token} (rest : List Char)
    (starts : start c = ([token], between)) :
    between.cut (c :: rest) = token :: between.cut rest :=
  have steps : between.step c = ([token], between) := starts
  cut_cons rest steps

theorem cut_constant {value : Json} {first : Char} {others rest : List Char}
    (text : value.text = first :: others) (tokens : value.printedTokens = [.word (first :: others)])
    (starts : start first = ([], word [first]))
    (goesOn : (others.all fun c => isWordPart c && !isRelaxedSpace c) = true)
    (delimited : Delimited rest) :
    between.cut (value.text ++ rest) = value.printedTokens ++ between.cut rest := by
  rw [text, tokens, cut_word starts goesOn delimited]
  rfl

/-- A key, the colon and the tokens of the value. -/
theorem cut_member (key : String) {value : Json} {rest : List Char}
    (cutValue : between.cut (value.text ++ rest) = value.printedTokens ++ between.cut rest) :
    between.cut (quoted key ++ ':' :: (value.text ++ rest)) =
      .string (spelling key) :: .colon :: (value.printedTokens ++ between.cut rest) := by
  rw [cut_quoted, cut_mark _ rfl, cutValue]

mutual

theorem cut_text (value : Json) {rest : List Char} (delimited : Delimited rest) :
    between.cut (value.text ++ rest) = value.printedTokens ++ between.cut rest := by
  cases value with
  | null => exact cut_constant rfl rfl rfl rfl delimited
  | bool value =>
      cases value with
      | true => exact cut_constant rfl rfl rfl rfl delimited
      | false => exact cut_constant rfl rfl rfl rfl delimited
  | number value =>
      rw [Json.text, ← Number.text_numeral, cut_numeral value.wellFormed_numeral delimited]
      rfl
  | string value => exact cut_quoted value rest
  | array items =>
      rw [Json.text, List.cons_append, cut_mark _ rfl]
      cases items with
      | nil => exact congrArg _ (cut_mark rest rfl)
      | cons item more =>
          have first := cut_text item (delimited_furtherItemsText more rest)
          rw [itemsText, List.append_assoc, first, cut_furtherItemsText more rest]
          simp [printedTokens, itemTokens]
  | object members =>
      rw [Json.text, List.cons_append, cut_mark _ rfl]
      cases members with
      | nil => exact congrArg _ (cut_mark rest rfl)
      | cons member more =>
          rcases member with ⟨key, value⟩
          have first := cut_member key (cut_text value (delimited_furtherMembersText more rest))
          simp only [membersText, List.append_assoc, List.cons_append, first,
            cut_furtherMembersText more rest, printedTokens, memberTokens]

theorem cut_furtherItemsText (items : List Json) (rest : List Char) :
    between.cut (furtherItemsText items ++ rest) = furtherItemTokens items ++ between.cut rest := by
  cases items with
  | nil => exact cut_mark rest rfl
  | cons item more =>
      have next := cut_text item (delimited_furtherItemsText more rest)
      simp only [furtherItemsText, List.cons_append, List.append_assoc]
      rw [cut_mark _ rfl, next, cut_furtherItemsText more rest]
      simp [furtherItemTokens]

theorem cut_furtherMembersText (members : List (String × Json)) (rest : List Char) :
    between.cut (furtherMembersText members ++ rest) =
      furtherMemberTokens members ++ between.cut rest := by
  cases members with
  | nil => exact cut_mark rest rfl
  | cons member more =>
      rcases member with ⟨key, value⟩
      have next := cut_member key (cut_text value (delimited_furtherMembersText more rest))
      simp only [furtherMembersText, List.cons_append, List.append_assoc]
      rw [cut_mark _ rfl, next, cut_furtherMembersText more rest]
      simp [furtherMemberTokens]

end

end RelaxedLexer

/-! ## Putting together -/

namespace Node

/-- Goes on in the relaxed dialect with the tokens that are left. -/
def Progress.resumeRelaxed : Progress → List Token → Node × List Token
  | .openAt expectation frames, tokens => build .relaxed expectation frames tokens
  | .complete node, tokens => (node, tokens)

theorem build_relaxed_cons (expectation : Expectation) (frames : List Frame) (token : Token)
    (tokens : List Token) :
    build .relaxed expectation frames (token :: tokens) =
      (step .relaxed expectation frames token).resumeRelaxed tokens := by
  rw [build]
  cases step .relaxed expectation frames token <;> rfl

/-- A key and its value are put together, as the first member or a further one. -/
theorem build_memberTokens (key : String) {value : Json} {rest : List Token}
    (done : List (Source × Node)) (outer : List Frame)
    (buildValue : ∀ frames, build .relaxed .value frames (value.printedTokens ++ rest) =
      (place value.node frames).resumeRelaxed rest) :
    build .relaxed .member (.object done :: outer)
        (.string (spelling key) :: .colon :: (value.printedTokens ++ rest)) =
      build .relaxed .next (.object ((spelling key, value.node) :: done) :: outer) rest := by
  have keyStep : step .relaxed .member (.object done :: outer) (.string (spelling key)) =
      .openAt (.colon (spelling key)) (.object done :: outer) := rfl
  have colonStep : step .relaxed (.colon (spelling key)) (.object done :: outer) .colon =
      .openAt .value (.pending done (spelling key) :: outer) := rfl
  rw [build_relaxed_cons, keyStep]
  simp only [Progress.resumeRelaxed]
  rw [build_relaxed_cons, colonStep]
  exact buildValue (.pending done (spelling key) :: outer)

mutual

/-- The tokens of a value are read as its node, wherever a value may stand. -/
theorem build_printedTokens (value : Json) {expectation : Expectation}
    (allowed : AllowsValue expectation) (frames : List Frame) (rest : List Token) :
    build .relaxed expectation frames (value.printedTokens ++ rest) =
      (place value.node frames).resumeRelaxed rest := by
  have begins {token : Token} {more : List Token} (opening : token ≠ .closeBracket) :
      build .relaxed expectation frames (token :: more) =
        (beginValue frames token).resumeRelaxed more := by
    rw [build_relaxed_cons, step_of_allowsValue allowed frames opening]
  cases value with
  | null => exact begins (by simp)
  | bool value =>
      cases value with
      | true => exact begins (by simp)
      | false => exact begins (by simp)
  | number value => exact begins (by simp)
  | string value => exact begins (by simp)
  | array items =>
      rw [printedTokens, List.cons_append, begins (by simp)]
      simp only [beginValue, Progress.resumeRelaxed]
      cases items with
      | nil => exact build_relaxed_cons _ _ _ _
      | cons item more =>
          rw [itemTokens, List.append_assoc, build_printedTokens item (.inr rfl)]
          exact build_furtherItemTokens more [item.node] frames rest
  | object members =>
      rw [printedTokens, List.cons_append, begins (by simp)]
      simp only [beginValue, Progress.resumeRelaxed]
      cases members with
      | nil => exact build_relaxed_cons _ _ _ _
      | cons member more =>
          rcases member with ⟨key, value⟩
          simp only [memberTokens, List.cons_append, List.append_assoc]
          rw [build_memberTokens key [] frames fun frames =>
            build_printedTokens value (.inl rfl) frames _]
          exact build_furtherMemberTokens more [(spelling key, value.node)] frames rest

theorem build_furtherItemTokens (items : List Json) (done : List Node) (outer : List Frame)
    (rest : List Token) :
    build .relaxed .next (.array done :: outer) (furtherItemTokens items ++ rest) =
      (place (.array (done.reverse ++ itemNodes items) true) outer).resumeRelaxed rest := by
  cases items with
  | nil =>
      rw [itemNodes, List.append_nil]
      exact build_relaxed_cons _ _ _ _
  | cons item more =>
      have comma : step .relaxed .next (.array done :: outer) .comma =
          .openAt .item (.array done :: outer) := rfl
      simp only [furtherItemTokens, List.cons_append, List.append_assoc]
      rw [build_relaxed_cons, comma]
      simp only [Progress.resumeRelaxed]
      rw [build_printedTokens item (.inr rfl)]
      have further := build_furtherItemTokens more (item.node :: done) outer rest
      rw [List.reverse_cons, List.append_assoc] at further
      exact further

theorem build_furtherMemberTokens (members : List (String × Json)) (done : List (Source × Node))
    (outer : List Frame) (rest : List Token) :
    build .relaxed .next (.object done :: outer) (furtherMemberTokens members ++ rest) =
      (place (.object (done.reverse ++ memberNodes members) true) outer).resumeRelaxed rest := by
  cases members with
  | nil =>
      rw [memberNodes, List.append_nil]
      exact build_relaxed_cons _ _ _ _
  | cons member more =>
      rcases member with ⟨key, value⟩
      have comma : step .relaxed .next (.object done :: outer) .comma =
          .openAt .member (.object done :: outer) := rfl
      simp only [furtherMemberTokens, List.cons_append, List.append_assoc]
      rw [build_relaxed_cons, comma]
      simp only [Progress.resumeRelaxed]
      rw [build_memberTokens key done outer fun frames =>
        build_printedTokens value (.inl rfl) frames _]
      have further := build_furtherMemberTokens more ((spelling key, value.node) :: done) outer rest
      rw [List.reverse_cons, List.append_assoc] at further
      exact further

end

end Node

/-- A printed value is read in the relaxed dialect as its node, with nothing behind it. -/
theorem ofRelaxedText_render (value : Json) :
    Document.ofRelaxedText value.render = ⟨value.node, false⟩ := by
  have tokens : relaxedTokens value.text = value.printedTokens := by
    have nothing : RelaxedLexer.Delimited [] := by simp [RelaxedLexer.Delimited]
    have cut := RelaxedLexer.cut_text value nothing
    rw [List.append_nil] at cut
    exact cut.trans (List.append_nil _)
  have built := Node.build_printedTokens value (.inl rfl) [] []
  rw [List.append_nil] at built
  simp only [Document.ofRelaxedText, render, String.toList_ofList, tokens, built]
  rfl

end TransactionLedger.Json
