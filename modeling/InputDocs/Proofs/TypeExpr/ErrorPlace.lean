import InputDocs.Proofs.Token.Places
import InputDocs.Proofs.TypeExpr.Nesting

/-!
# Proofs.TypeExpr.ErrorPlace -- every place that is reported is true

The places of tokens and of lexical errors are places after some beginning of the text, and so
true. The reader reports no others: an error of a run stands at a token or at the end of the
tokens, and for a whole text that end is the place after all of it, counted once more from the
first character. `places_true` collects what holds of one text.
-/

namespace InputDocs.TypeExpr

set_option autoImplicit false

variable {text : String}

/-- An error over a text is lexical, or that of a run over its tokens up to its end. -/
theorem parse_error_cases {maxDepth : Nat} {error : ParseError}
    (failed : parse maxDepth text = .error error) :
    (∃ lexical, Token.tokenize text = .error lexical ∧
      error = .lexical lexical.position lexical.fault) ∨
    ∃ tokens limit, Token.tokenize text = .ok tokens ∧
      ErrorForm limit (.after text.toList) none tokens error := by
  rw [parse] at failed
  cases scanned : Token.tokenize text with
  | error lexical =>
      rw [scanned] at failed
      cases failed
      exact Or.inl ⟨lexical, rfl, rfl⟩
  | ok tokens =>
      rw [scanned] at failed
      exact Or.inr ⟨tokens, _, rfl, State.run_error_form State.at_start failed⟩

/-- **Every place that is reported is true.** Tokens stand at true places, with offsets that go up.
Lexical errors and all errors over a text, under any limit, stand at true places, and an error
that names no token stands at the end of the text, counted there. -/
theorem places_true (text : String) :
    (∀ tokens, Token.tokenize text = .ok tokens →
      (∀ token ∈ tokens, token.position.TrueIn text) ∧
      (tokens.map (·.position.offset)).Pairwise (· < ·)) ∧
    (∀ error, Token.tokenize text = .error error → error.position.TrueIn text) ∧
    (∀ maxDepth error, parse maxDepth text = .error error → error.position.TrueIn text) ∧
    ∀ maxDepth position expected,
      parse maxDepth text = .error (.unexpected position expected none) →
      position = .after text.toList ∧ position.Follows text.toList := by
  refine ⟨?_, fun error failed => Token.trueIn_of_error failed, ?_, ?_⟩
  · intro tokens scanned
    have up := (Token.laidOut_of_tokenize scanned).ascending
    exact ⟨Token.trueIn_of_tokenize scanned, (List.pairwise_append.1 up).1⟩
  · intro maxDepth error failed
    rcases parse_error_cases failed with ⟨lexical, scan, rfl⟩ | ⟨tokens, limit, scan, form⟩
    · exact Token.trueIn_of_error scan
    · have ends : (Position.after text.toList).TrueIn text :=
        Position.trueIn_of_front (List.append_nil _).symm
      exact form.position_of nofun (Token.trueIn_of_tokenize scan) ends
  · intro maxDepth position expected failed
    rcases parse_error_cases failed with ⟨lexical, scan, same⟩ | ⟨tokens, limit, scan, form⟩
    · cases same
    · cases form
      exact ⟨rfl, Position.follows_after _⟩

/-- A call that is not closed. Its first argument is a string over two lines, with characters of
two bytes. -/
def twoLines : String := "f(\"ö\nü\", x"

/-- The tokens of `twoLines`. -/
def twoLinesTokens : List Token.Placed :=
  [⟨.word "f", ⟨0, 1, 1⟩⟩, ⟨.openParen, ⟨1, 1, 2⟩⟩, ⟨.quoted "\"ö\nü\"", ⟨2, 1, 3⟩⟩,
    ⟨.comma, ⟨9, 2, 3⟩⟩, ⟨.word "x", ⟨11, 2, 5⟩⟩]

theorem twoLines_places :
    (Token.tokenize twoLines = .ok twoLinesTokens ∧
      ∀ token ∈ twoLinesTokens, token.position.TrueIn twoLines) ∧
    (parse 64 twoLines = .error (.unexpected ⟨12, 2, 6⟩ .commaOrClose none) ∧
      Position.Follows ⟨12, 2, 6⟩ twoLines.toList) ∧
    (parse 0 twoLines = .error (.tooDeep ⟨0, 1, 1⟩ 0) ∧ Position.TrueIn twoLines ⟨0, 1, 1⟩) ∧
    (Token.tokenize "1\n é" = .error ⟨⟨3, 2, 2⟩, .strange 'é'⟩ ∧
      Position.TrueIn "1\n é" ⟨3, 2, 2⟩) := by
  have scanned : Token.tokenize twoLines = .ok twoLinesTokens := by
    with_unfolding_all rfl
  have unclosed : parse 64 twoLines = .error (.unexpected ⟨12, 2, 6⟩ .commaOrClose none) := by
    with_unfolding_all rfl
  have deep : parse 0 twoLines = .error (.tooDeep ⟨0, 1, 1⟩ 0) := by
    with_unfolding_all rfl
  have foreign : Token.tokenize "1\n é" = .error ⟨⟨3, 2, 2⟩, .strange 'é'⟩ := by
    with_unfolding_all rfl
  obtain ⟨placed, -, errors, ends⟩ := places_true twoLines
  exact ⟨⟨scanned, (placed _ scanned).1⟩, ⟨unclosed, (ends _ _ _ unclosed).2⟩,
    ⟨deep, errors _ _ deep⟩, ⟨foreign, (places_true _).2.1 _ foreign⟩⟩

end InputDocs.TypeExpr
