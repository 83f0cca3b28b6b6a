import TransactionLedger.Proofs.Json.Lexer
import TransactionLedger.Proofs.Json.PrintedNumber

/-!
# Building nodes from printed text

The text of a value is read as a node that ends where the text ends, whatever is open around it. The
text of an array or object is read item by item. The node of a printed value shows the numerals of
its numbers and the spellings of its strings.
-/

namespace TransactionLedger.Json

/-! ## Tokens of a few characters -/

theorem tokens_of_start {c : Char} {token : Token} (source : Source)
    (starts : Lexer.start c = ([token], .between)) :
    tokens (some c :: source) = token :: tokens source :=
  have steps : Lexer.between.step (some c) = ([token], .between) := starts
  Lexer.cut_cons source steps

/-- A literal is complete when its last letter has come. -/
theorem Lexer.cut_literal (first : Char) (rest : List Char) (token : Token) (source : Source) :
    (literal (first :: rest) token).cut (Source.ofText (first :: rest) ++ source) =
      token :: between.cut source := by
  induction rest generalizing first with
  | nil =>
      have ends : (literal [first] token).step (some first) = ([token], between) := by simp [step]
      simp [cut_cons _ ends]
  | cons second rest ih =>
      have goesOn : (literal (first :: second :: rest) token).step (some first) =
          ([], literal (second :: rest) token) := by simp [step]
      rw [ofText_cons, List.cons_append, cut_cons _ goesOn, ih]
      rfl

theorem tokens_literal {first second : Char} {rest : List Char} {token : Token} (source : Source)
    (starts : Lexer.start first = ([], .literal (second :: rest) token)) :
    tokens (Source.ofText (first :: second :: rest) ++ source) = token :: tokens source := by
  have steps : Lexer.between.step (some first) = ([], .literal (second :: rest) token) := starts
  rw [ofText_cons, List.cons_append, Lexer.tokens_eq, Lexer.cut_cons _ steps, Lexer.cut_literal]
  rfl

theorem tokens_quoted (text : String) (source : Source) :
    tokens (Source.ofText (quoted text) ++ source) = .string (spelling text) :: tokens source :=
  Lexer.cut_quoted text source

/-! ## Values -/

namespace Node

/-- Goes on with the tokens that are left. -/
def Progress.resume : Progress → List Token → Node × List Token
  | .openAt expectation frames, tokens => build .strict expectation frames tokens
  | .complete node, tokens => (node, tokens)

theorem build_cons (expectation : Expectation) (frames : List Frame) (token : Token)
    (tokens : List Token) :
    build .strict expectation frames (token :: tokens) =
      (step .strict expectation frames token).resume tokens := by
  rw [build]
  cases step .strict expectation frames token <;> rfl

/-- A value may stand here. -/
def AllowsValue (expectation : Expectation) : Prop :=
  expectation = .value ∨ expectation = .item

theorem step_of_allowsValue {dialect : Dialect} {expectation : Expectation}
    (allowed : AllowsValue expectation) (frames : List Frame) {token : Token}
    (begins : token ≠ .closeBracket) :
    step dialect expectation frames token = beginValue frames token := by
  rcases allowed with rfl | rfl
  · rfl
  · rw [step.eq_def]
    split <;> simp_all

/-- The text is read as the node, wherever a value may stand. -/
def ReadAs (text : List Char) (node : Node) : Prop :=
  ∀ expectation frames source, AllowsValue expectation → EndsValue source →
    build .strict expectation frames (tokens (Source.ofText text ++ source)) =
      (place node frames).resume (tokens source)

theorem readAs_of_token {text : List Char} {token : Token} {node : Node}
    (cut : ∀ source, EndsValue source →
      tokens (Source.ofText text ++ source) = token :: tokens source)
    (begins : ∀ frames, beginValue frames token = place node frames)
    (notClosing : token ≠ .closeBracket) : ReadAs text node := by
  intro expectation frames source allowed ends
  rw [cut source ends, build_cons, step_of_allowsValue allowed frames notClosing, begins]

theorem readAs_literal {first second : Char} {rest : List Char} {token : Token} {node : Node}
    (starts : Lexer.start first = ([], .literal (second :: rest) token))
    (begins : ∀ frames, beginValue frames token = place node frames)
    (notClosing : token ≠ .closeBracket) : ReadAs (first :: second :: rest) node :=
  readAs_of_token (fun source _ => tokens_literal source starts) begins notClosing

/-! ## Arrays -/

/-- The text behind an item is read as the further items of the array. -/
def ItemsReadAs (text : List Char) (nodes : List Node) : Prop :=
  ∀ done outer source,
    build .strict .next (.array done :: outer) (tokens (Source.ofText text ++ source)) =
      (place (.array (done.reverse ++ nodes) true) outer).resume (tokens source)

section Arrays

variable {text further : List Char} {node : Node} {nodes : List Node}

theorem tokens_closeBracket (source : Source) :
    tokens (some ']' :: source) = .closeBracket :: tokens source :=
  tokens_of_start source rfl

theorem tokens_comma (source : Source) : tokens (some ',' :: source) = .comma :: tokens source :=
  tokens_of_start source rfl

theorem itemsReadAs_nil : ItemsReadAs [']'] [] := by
  intro done outer source
  rw [ofText_cons, ofText_nil, List.cons_append, List.nil_append, tokens_closeBracket, build_cons,
    List.append_nil]
  rfl

theorem ItemsReadAs.cons (readAs : ReadAs text node) (more : ItemsReadAs further nodes)
    (ends : ∀ source, EndsValue (Source.ofText further ++ source)) :
    ItemsReadAs (',' :: text ++ further) (node :: nodes) := by
  intro done outer source
  rw [List.cons_append, ofText_cons, ofText_append, List.cons_append, List.append_assoc,
    tokens_comma, build_cons]
  have item := readAs .value (.array done :: outer) (Source.ofText further ++ source) (.inl rfl)
    (ends source)
  have rest := more (node :: done) outer source
  rw [List.reverse_cons, List.append_assoc] at rest
  exact item.trans rest

/-- What follows the opening bracket decides how an array is read. -/
theorem readAs_of_openBracket
    (inside : ∀ outer source, build .strict .item (.array [] :: outer)
        (tokens (Source.ofText text ++ source)) = (place node outer).resume (tokens source)) :
    ReadAs ('[' :: text) node := by
  intro expectation frames source allowed _
  have opens (source : Source) : tokens (some '[' :: source) = .openBracket :: tokens source :=
    tokens_of_start source rfl
  rw [ofText_cons, List.cons_append, opens, build_cons,
    step_of_allowsValue allowed frames (by simp)]
  exact inside frames source

theorem readAs_array_nil : ReadAs ['[', ']'] (.array [] true) := by
  apply readAs_of_openBracket
  intro outer source
  rw [ofText_cons, ofText_nil, List.cons_append, List.nil_append, tokens_closeBracket, build_cons]
  rfl

theorem readAs_array (readAs : ReadAs text node) (more : ItemsReadAs further nodes)
    (ends : ∀ source, EndsValue (Source.ofText further ++ source)) :
    ReadAs ('[' :: (text ++ further)) (.array (node :: nodes) true) := by
  apply readAs_of_openBracket
  intro outer source
  rw [ofText_append, List.append_assoc]
  have item := readAs .item (.array [] :: outer) (Source.ofText further ++ source) (.inr rfl)
    (ends source)
  exact item.trans (more [node] outer source)

end Arrays

/-! ## Objects -/

/-- The text behind a member is read as the further members of the object. -/
def MembersReadAs (text : List Char) (nodes : List (Source × Node)) : Prop :=
  ∀ done outer source,
    build .strict .next (.object done :: outer) (tokens (Source.ofText text ++ source)) =
      (place (.object (done.reverse ++ nodes) true) outer).resume (tokens source)

section Objects

variable {key : String} {text further : List Char} {node : Node} {nodes : List (Source × Node)}

theorem tokens_closeBrace (source : Source) :
    tokens (some '}' :: source) = .closeBrace :: tokens source :=
  tokens_of_start source rfl

theorem tokens_colon (source : Source) : tokens (some ':' :: source) = .colon :: tokens source :=
  tokens_of_start source rfl

theorem membersReadAs_nil : MembersReadAs ['}'] [] := by
  intro done outer source
  rw [ofText_cons, ofText_nil, List.cons_append, List.nil_append, tokens_closeBrace, build_cons,
    List.append_nil]
  rfl

/-- A key and its value are read as a member. -/
theorem build_member (key : String) {expectation : Expectation}
    (allowed : expectation = .key ∨ expectation = .member) (readAs : ReadAs text node)
    (done : List (Source × Node)) (outer : List Frame) {source : Source} (ends : EndsValue source) :
    build .strict expectation (.object done :: outer)
        (tokens (Source.ofText (quoted key) ++ (some ':' :: (Source.ofText text ++ source)))) =
      build .strict .next (.object ((spelling key, node) :: done) :: outer) (tokens source) := by
  have keyStep : step .strict expectation (.object done :: outer) (.string (spelling key)) =
      .openAt (.colon (spelling key)) (.object done :: outer) := by
    rcases allowed with rfl | rfl <;> rfl
  have colonStep : step .strict (.colon (spelling key)) (.object done :: outer) .colon =
      .openAt .value (.pending done (spelling key) :: outer) := rfl
  rw [tokens_quoted, build_cons, keyStep]
  simp only [Progress.resume]
  rw [tokens_colon, build_cons, colonStep]
  exact readAs .value (.pending done (spelling key) :: outer) source (.inl rfl) ends

theorem MembersReadAs.cons (readAs : ReadAs text node) (more : MembersReadAs further nodes)
    (ends : ∀ source, EndsValue (Source.ofText further ++ source)) :
    MembersReadAs (',' :: quoted key ++ ':' :: text ++ further)
      ((spelling key, node) :: nodes) := by
  intro done outer source
  simp only [List.cons_append, List.append_assoc, ofText_cons, ofText_append]
  rw [tokens_comma, build_cons]
  have member := build_member key (.inl rfl) readAs done outer (ends source)
  have rest := more ((spelling key, node) :: done) outer source
  rw [List.reverse_cons, List.append_assoc] at rest
  exact member.trans rest

/-- What follows the opening brace decides how an object is read. -/
theorem readAs_of_openBrace
    (inside : ∀ outer source, build .strict .member (.object [] :: outer)
        (tokens (Source.ofText text ++ source)) = (place node outer).resume (tokens source)) :
    ReadAs ('{' :: text) node := by
  intro expectation frames source allowed _
  have opens (source : Source) : tokens (some '{' :: source) = .openBrace :: tokens source :=
    tokens_of_start source rfl
  rw [ofText_cons, List.cons_append, opens, build_cons,
    step_of_allowsValue allowed frames (by simp)]
  exact inside frames source

theorem readAs_object_nil : ReadAs ['{', '}'] (.object [] true) := by
  apply readAs_of_openBrace
  intro outer source
  rw [ofText_cons, ofText_nil, List.cons_append, List.nil_append, tokens_closeBrace, build_cons]
  rfl

theorem readAs_object (readAs : ReadAs text node) (more : MembersReadAs further nodes)
    (ends : ∀ source, EndsValue (Source.ofText further ++ source)) :
    ReadAs ('{' :: (quoted key ++ ':' :: text ++ further))
      (.object ((spelling key, node) :: nodes) true) := by
  apply readAs_of_openBrace
  intro outer source
  simp only [List.cons_append, List.append_assoc, ofText_cons, ofText_append]
  have member := build_member key (.inr rfl) readAs [] outer (ends source)
  exact member.trans (more [(spelling key, node)] outer source)

end Objects

end Node

/-! ## Printed values -/

mutual

/-- The node that a printed value is read as. -/
def node : Json → Node
  | null => .null
  | bool value => .bool value
  | number value => .number value.numeral
  | string value => .string (spelling value)
  | array items => .array (itemNodes items) true
  | object members => .object (memberNodes members) true

@[inherit_doc node]
def itemNodes : List Json → List Node
  | [] => []
  | item :: rest => item.node :: itemNodes rest

@[inherit_doc node]
def memberNodes : List (String × Json) → List (Source × Node)
  | [] => []
  | (key, value) :: rest => (spelling key, value.node) :: memberNodes rest

end

theorem endsValue_furtherItemsText (items : List Json) (source : Source) :
    EndsValue (Source.ofText (furtherItemsText items) ++ source) := by
  cases items <;> simp [EndsValue, furtherItemsText]

theorem endsValue_furtherMembersText (members : List (String × Json)) (source : Source) :
    EndsValue (Source.ofText (furtherMembersText members) ++ source) := by
  cases members <;> simp [EndsValue, furtherMembersText]

open Node

mutual

/-- The text of a value is read as its node. -/
theorem readAs_node (value : Json) : ReadAs value.text value.node := by
  cases value with
  | null => exact readAs_literal rfl (fun _ => rfl) (by simp)
  | bool value =>
      cases value with
      | true => exact readAs_literal rfl (fun _ => rfl) (by simp)
      | false => exact readAs_literal rfl (fun _ => rfl) (by simp)
  | number value =>
      rw [Json.text, ← Number.text_numeral]
      exact readAs_of_token (fun source => Lexer.cut_numeral value.wellFormed_numeral)
        (fun _ => rfl) (by simp)
  | string value =>
      exact readAs_of_token (fun source _ => tokens_quoted value source) (fun _ => rfl) (by simp)
  | array items =>
      cases items with
      | nil => exact readAs_array_nil
      | cons item rest =>
          exact readAs_array (readAs_node item) (itemsReadAs_itemNodes rest)
            (endsValue_furtherItemsText rest)
  | object members =>
      cases members with
      | nil => exact readAs_object_nil
      | cons member rest =>
          rcases member with ⟨key, value⟩
          exact readAs_object (readAs_node value) (membersReadAs_memberNodes rest)
            (endsValue_furtherMembersText rest)

theorem itemsReadAs_itemNodes (items : List Json) :
    ItemsReadAs (furtherItemsText items) (itemNodes items) := by
  cases items with
  | nil => exact itemsReadAs_nil
  | cons item rest =>
      exact ItemsReadAs.cons (readAs_node item) (itemsReadAs_itemNodes rest)
        (endsValue_furtherItemsText rest)

theorem membersReadAs_memberNodes (members : List (String × Json)) :
    MembersReadAs (furtherMembersText members) (memberNodes members) := by
  cases members with
  | nil => exact membersReadAs_nil
  | cons member rest =>
      rcases member with ⟨key, value⟩
      exact MembersReadAs.cons (readAs_node value) (membersReadAs_memberNodes rest)
        (endsValue_furtherMembersText rest)

end

/-- A printed value is read as its node, with nothing behind it. -/
theorem ofText_render (value : Json) : Document.ofText value.render = ⟨value.node, false⟩ := by
  have whole := readAs_node value .value [] [] (.inl rfl) (by simp [EndsValue])
  rw [List.append_nil] at whole
  simp only [Document.ofText, Document.ofSource, render, String.toList_ofList, whole]
  rfl

end TransactionLedger.Json
