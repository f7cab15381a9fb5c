import InputDocs.Proofs.Token.LineEnds

/-!
# Proofs.Field.LineEnds -- line ends do not change the documentation

What is read from a text and from the same text with carriage returns before its line feeds is the
same up to canonical comments and places (`TypeExpr.parse_crlf`): the tokens are, and the reader
looks at neither. A resolution sees of a comment only what it says, so both are documented alike,
with the same events and the same group.

An error stands on the same line in the same column and has the same texts, while its offset counts
the carriage returns before it. `DocumentError.report` is what there is to an error but for the
offset, and more than the message says (`DocumentError.message_report`).
-/

namespace InputDocs

set_option autoImplicit false

/-! ## Reports -/

/-- An error as it is reported: its kind, its line and column, and its texts. -/
inductive Report where
  | lexical (line column : Nat) (fault : String)
  | unexpected (line column : Nat) (expected found : String)
  | tooDeep (line column limit : Nat)
  | duplicate (key : String)
  deriving DecidableEq, Repr

namespace Report

/-- The message of a reported error. -/
def message : Report → String
  | lexical line column fault => toString line ++ ":" ++ toString column ++ ": " ++ fault
  | unexpected line column expected found =>
    toString line ++ ":" ++ toString column ++ ": expected " ++ expected ++ ", found " ++ found
  | tooDeep line column limit =>
    toString line ++ ":" ++ toString column ++ ": nesting deeper than " ++ toString limit ++
      " levels"
  | duplicate key => "duplicate property key `" ++ key ++ "`"

end Report

theorem Token.describe_reword (change : Rewording) (token : Token) :
    (token.reword change).describe = token.describe := by
  cases token <;> rfl

namespace DocumentError

/-- The error without its offset, and a token that it names as messages name it. -/
def report : DocumentError → Report
  | parse (.lexical position fault) => .lexical position.line position.column fault.message
  | parse (.unexpected position expected found) =>
    .unexpected position.line position.column expected.text
      ((found.map Token.describe).getD "end of input")
  | parse (.tooDeep position limit) => .tooDeep position.line position.column limit
  | duplicate error => .duplicate error.key

/-- The report has everything that the message says. -/
theorem message_report (error : DocumentError) : error.report.message = error.message := by
  cases error with
  | parse error => cases error <;> rfl
  | duplicate error => rfl

theorem report_canonical (error : ParseError) :
    (parse (error.reword .canonical)).report = (parse error).report := by
  cases error with
  | unexpected position expected found =>
      cases found with
      | none => rfl
      | some token => simp [ParseError.reword, report, Token.describe_reword, Rewording.canonical]
  | _ => rfl

end DocumentError

/-! ## Reading -/

namespace TypeExpr

variable {text : String} {tokens : List Token.Placed}

theorem parse_eq_ofTokens (scanned : Token.tokenize text = .ok tokens) (maxDepth : Nat) :
    parse maxDepth text = ofTokens maxDepth (.after text.toList) tokens := by
  rw [parse, scanned]

/-- **Both texts are read alike.** Up to canonical comments and places the expressions are the same,
or the errors. -/
theorem parse_crlf (scanned : Token.tokenize text = .ok tokens)
    (oneLine : ∀ token ∈ tokens, ∀ quoted, token.token = .quoted quoted → '\n' ∉ quoted.toList)
    (maxDepth : Nat) :
    Rewording.canonical.result (reword .canonical) (parse maxDepth (Text.crlf text)) =
      Rewording.canonical.result (reword .canonical) (parse maxDepth text) := by
  have related := Text.returned_crlf text
  obtain ⟨twins, scannedTwins, alike⟩ :=
    Token.tokenizeFrom_returned scanned related (.refl .start _) oneLine
  have ends : Rewording.canonical.place (.after (Text.crlf text).toList) =
      Rewording.canonical.place (.after text.toList) :=
    ((Position.Abreast.refl .start (text.toList ++ [])).advance related).canonical nofun
  rw [parse_eq_ofTokens scannedTwins, parse_eq_ofTokens scanned, ← ofTokens_reword, alike, ends,
    ofTokens_reword]

end TypeExpr

/-! ## Documentation -/

/-- **Line ends do not change the documentation.** A type expression whose strings are on one line
each is documented alike with a carriage return before every line feed: with the same events, and
to the same group or with the same report. So is a description. -/
theorem document_crlf [PatternEngine] (options : Options) (name : String) :
    (∀ text tokens, Token.tokenize text = .ok tokens →
      (∀ token ∈ tokens, ∀ quoted, token.token = .quoted quoted → '\n' ∉ quoted.toList) →
      (document options name (Text.crlf text)).mapError DocumentError.report =
        (document options name text).mapError DocumentError.report) ∧
    ∀ text, Doc.ofDescription (Text.crlf text) = Doc.ofDescription text := by
  refine ⟨fun text tokens scanned oneLine => ?_, fun text => ?_⟩
  · have read := TypeExpr.parse_crlf scanned oneLine options.maxDepth
    unfold document
    cases plain : TypeExpr.parse options.maxDepth text with
    | ok root =>
        cases returned : TypeExpr.parse options.maxDepth (Text.crlf text) with
        | ok twin =>
            rw [plain, returned] at read
            have alike : twin.reword .canonical = root.reword .canonical := Except.ok.inj read
            have resolved : Field.resolveGroup options.policy twin name =
                Field.resolveGroup options.policy root name := by
              rw [← Field.resolveGroup_reword Rewording.canonical_keepsDocs, alike,
                Field.resolveGroup_reword Rewording.canonical_keepsDocs]
            simp only [resolved]
        | error error =>
            rw [plain, returned] at read
            cases read
    | error error =>
        cases returned : TypeExpr.parse options.maxDepth (Text.crlf text) with
        | ok twin =>
            rw [plain, returned] at read
            cases read
        | error other =>
            rw [plain, returned] at read
            have alike : other.reword .canonical = error.reword .canonical :=
              Except.error.inj read
            have reported := DocumentError.report_canonical other
            rw [alike, DocumentError.report_canonical] at reported
            exact congrArg Traced.fail reported.symm
  · exact Doc.ofDescription_returned (Text.returned_crlf text)

/-- A line comment, a block over two lines and a string. -/
theorem document_crlf_comments :
    let _ : PatternEngine := .lenient
    let text := "object(\x7b\n /// A.\n a = \"x\"\n /** B\n  * C */\n b = any\n\x7d)"
    let tokens : List Token.Placed :=
      [⟨.word "object", ⟨0, 1, 1⟩⟩, ⟨.openParen, ⟨6, 1, 7⟩⟩, ⟨.openBrace, ⟨7, 1, 8⟩⟩,
        ⟨.docLine "/// A.", ⟨10, 2, 2⟩⟩, ⟨.word "a", ⟨18, 3, 2⟩⟩, ⟨.equals, ⟨20, 3, 4⟩⟩,
        ⟨.quoted "\"x\"", ⟨22, 3, 6⟩⟩, ⟨.docBlock "/** B\n  * C */", ⟨27, 4, 2⟩⟩,
        ⟨.word "b", ⟨43, 6, 2⟩⟩, ⟨.equals, ⟨45, 6, 4⟩⟩, ⟨.word "any", ⟨47, 6, 6⟩⟩,
        ⟨.closeBrace, ⟨51, 7, 1⟩⟩, ⟨.closeParen, ⟨52, 7, 2⟩⟩]
    Token.tokenize text = .ok tokens ∧
      (∀ token ∈ tokens, ∀ quoted, token.token = .quoted quoted → '\n' ∉ quoted.toList) ∧
      (document {} "x" (Text.crlf text)).mapError DocumentError.report =
        (document {} "x" text).mapError DocumentError.report ∧
      Doc.ofDescription (Text.crlf text) = Doc.ofDescription text := by
  intro _ text tokens
  have scanned : Token.tokenize text = .ok tokens := by
    decide +kernel
  have oneLine : ∀ token ∈ tokens, ∀ quoted, token.token = .quoted quoted →
      '\n' ∉ quoted.toList := by
    simp [tokens]
  obtain ⟨expressions, descriptions⟩ := document_crlf {} "x"
  exact ⟨scanned, oneLine, expressions text tokens scanned oneLine, descriptions text⟩

end InputDocs
