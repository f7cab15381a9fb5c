import InputDocs.Proofs.Token.Places

/-!
# Proofs.Token.Unreadable -- where the tokens of a text stop

A text is unreadable if no token stands at its beginning, whatever follows: neither the token that
a scan would look for nor one of another class (`Unreadable`). These are exactly the texts that a
scan fails on, with any of the faults (`exists_scan_eq_error_iff`).

The tokenizer fails at the first place where what comes after a gap is unreadable. What stands
before the place is a sequence of tokens by itself. A token may have looked past its end, as a
number does to see whether a digit follows a point, but if it ends before a text then it also ends
before any beginning of that text (`Stops.of_isPrefix`), and the same holds of gaps
(`IsGap.of_isPrefix`).
-/

namespace InputDocs.Token

set_option autoImplicit false

/-! ## Texts that no token begins -/

/-- No text of a token, of whichever class, stands at the beginning. -/
def Unreadable (text : List Char) : Prop :=
  ∀ token : Token, token.IsLexeme → ¬ token.text.toList <+: text

/-- Where a number stands at the beginning, a number is scanned, though it may be a longer one. -/
theorem exists_scan_of_isNumber {c : Char} {rest digits : List Char} (lexeme : IsNumber digits)
    (front : digits <+: c :: rest) : ∃ token more, scan c rest = .ok (token, more) := by
  obtain ⟨more, written⟩ := front
  rcases lexeme with decimal | ⟨digits, rfl, decimal⟩
  · obtain ⟨first, others, rfl, digit⟩ := decimal.exists_digit
    obtain ⟨rfl, -⟩ := List.cons.inj written
    exact ⟨_, _, scan_digit digit rest⟩
  · obtain ⟨first, others, rfl, digit⟩ := decimal.exists_digit
    rw [List.cons_append, List.cons_append] at written
    obtain ⟨rfl, rfl⟩ := List.cons.inj written
    have scanned : scan '-' (first :: (others ++ more)) = scanNegative (first :: (others ++ more)) :=
      rfl
    rw [scanNegative, if_pos digit] at scanned
    exact ⟨_, _, scanned⟩

/-- Where a token stands at the beginning, one is scanned. Only a word, a number and a line comment
may go on after it; the others end where they do whatever follows. -/
theorem exists_scan_of_isLexeme {c : Char} {rest : List Char} {token : Token}
    (lexeme : token.IsLexeme) (front : token.text.toList <+: c :: rest) :
    ∃ first more, scan c rest = .ok (first, more) := by
  obtain ⟨more, written⟩ := front
  cases token with
  | docLine text =>
      obtain ⟨line, spelled, _⟩ := lexeme
      rw [Token.text, spelled] at written
      obtain ⟨rfl, rfl⟩ := List.cons.inj written
      exact ⟨_, _, rfl⟩
  | number text => exact exists_scan_of_isNumber lexeme ⟨more, written⟩
  | word name =>
      obtain ⟨first, others, spelled, starts, _⟩ := lexeme
      rw [Token.text, spelled] at written
      obtain ⟨rfl, -⟩ := List.cons.inj written
      exact ⟨_, _, scan_wordStart starts rest⟩
  | _ => exact ⟨_, more, scan_eq_ok_iff.2 ⟨written, lexeme, trivial⟩⟩

/-- **A scan fails exactly on unreadable texts.** -/
theorem exists_scan_eq_error_iff {c : Char} {rest : List Char} :
    (∃ fault, scan c rest = .error fault) ↔ Unreadable (c :: rest) := by
  constructor
  · rintro ⟨fault, failed⟩ token lexeme front
    obtain ⟨first, more, scanned⟩ := exists_scan_of_isLexeme lexeme front
    rw [failed] at scanned
    cases scanned
  · intro unreadable
    cases scanned : scan c rest with
    | error fault => exact ⟨fault, rfl⟩
    | ok found =>
        obtain ⟨token, more⟩ := found
        obtain ⟨written, lexeme, _⟩ := scan_eq_ok_iff.1 scanned
        exact absurd ⟨more, written⟩ (unreadable token lexeme)

/-! ## Cutting off what follows -/

section Cut

variable {front more : List Char}

theorem mem_head?_of_isPrefix (cut : front <+: more) : ∀ c ∈ front.head?, c ∈ more.head? := by
  obtain ⟨rest, rfl⟩ := cut
  cases front with
  | nil => exact nofun
  | cons c front => exact fun _ head => head

/-- A token that ends before a text ends before any beginning of it. -/
theorem Stops.of_isPrefix {token : Token} (stops : token.Stops more) (cut : front <+: more) :
    token.Stops front := by
  have head := mem_head?_of_isPrefix cut
  cases token with
  | docLine text => exact fun c first => stops c (head c first)
  | number text =>
      refine ⟨fun c first => stops.1 c (head c first), stops.2.imp_right ?_⟩
      rintro noFraction c rest rfl
      obtain ⟨after, whole⟩ := cut
      exact noFraction c (rest ++ after) whole.symm
  | word name => exact fun c first => stops c (head c first)
  | _ => trivial

/-- A gap before a text is a gap before any beginning of it. -/
theorem IsGap.of_isPrefix {gap : List Char} (isGap : IsGap more gap) (cut : front <+: more) :
    IsGap front gap := by
  induction isGap with
  | nil => exact .nil
  | space space _ ih => exact .space space ih
  | @comment line gap inside ends _ ih =>
      have whole : gap ++ front <+: gap ++ more := (List.prefix_append_right_inj gap).2 cut
      exact .comment inside (fun c head => ends c (mem_head?_of_isPrefix whole c head)) ih

end Cut

/-- After a gap stands neither a space nor a comment. -/
theorem head_splitGap (inComment : Bool) (text : List Char) :
    ∀ c ∈ (splitGap inComment text).2.head?, isSpace c = false ∧ c ≠ '#' := by
  induction text generalizing inComment with
  | nil => exact nofun
  | cons first rest ih =>
      intro c head
      rw [splitGap] at head
      split at head
      · exact ih _ c head
      · split at head
        · exact ih _ c head
        · split at head
          · exact ih _ c head
          · rename_i noSpace noHash
            obtain rfl := Option.some_inj.1 head
            exact ⟨Bool.not_eq_true _ ▸ noSpace, noHash⟩

/-! ## The first place that fails -/

/-- Up to the place of an error there are tokens, and there is none at it. -/
theorem exists_unreadable_of_error {place : Position} {text : List Char} {error : LexicalError}
    (failed : tokenizeFrom place text = .error error) :
    ∃ front rest, text = front ++ rest ∧ error.position = place.advance front ∧
      (∃ placed, tokenizeFrom place front = .ok placed) ∧ rest ≠ [] ∧
      (∀ c ∈ rest.head?, isSpace c = false ∧ c ≠ '#') ∧ Unreadable rest := by
  refine tokenizeFrom_error_induction (motive := fun place text error =>
    ∃ front rest, text = front ++ rest ∧ error.position = place.advance front ∧
      (∃ placed, tokenizeFrom place front = .ok placed) ∧ rest ≠ [] ∧
      (∀ c ∈ rest.head?, isSpace c = false ∧ c ≠ '#') ∧ Unreadable rest) ?_ ?_ failed
  · intro place text gap c rest fault between scanned
    have parts := splitGap_append false text
    have isGap := isGap_splitGap text
    have head := head_splitGap false text
    rw [between] at parts isGap head
    -- Before the failing scan stands only the gap, which reads as no tokens by itself.
    have alone := splitGap_of_isGap (isGap.of_isPrefix List.nil_prefix) rfl
    rw [List.append_nil] at alone
    refine ⟨gap, c :: rest, parts.symm, rfl, ⟨[], ?_⟩, List.cons_ne_nil _ _, head,
      exists_scan_eq_error_iff.1 ⟨fault, scanned⟩⟩
    rw [tokenizeFrom_eq, alone, tokensAt]
  · rintro place text gap token more error between lexeme stops
      ⟨front, tail, rfl, stands, ⟨placed, read⟩, filled, head, unreadable⟩
    have parts := splitGap_append false text
    have isGap := isGap_splitGap text
    rw [between] at parts isGap
    -- Gap and token also end where they do when the text is cut off at the place of the error.
    have cut : token.text.toList ++ front <+: token.text.toList ++ (front ++ tail) :=
      (List.prefix_append_right_inj _).2 (List.prefix_append front tail)
    have stopsFront := stops.of_isPrefix (List.prefix_append front tail)
    have split := splitGap_of_isGap (isGap.of_isPrefix cut) (splitGap_of_isLexeme lexeme stopsFront)
    refine ⟨gap ++ (token.text.toList ++ front), tail, ?_, ?_,
      ⟨_, tokenizeFrom_token split lexeme stopsFront read⟩, filled, head, unreadable⟩
    · rw [← parts]
      simp only [List.append_assoc]
    · rw [stands, Position.advance_append, Position.advance_append]

/-- **The tokenizer fails at the first place where no token begins.** The place is before a
character of the text. The text before the place is a sequence of tokens by itself; the text from
the place on begins with neither a space nor a comment, and with no token of any class. -/
theorem stops_at_unreadable {text : String} {error : LexicalError}
    (failed : tokenize text = .error error) :
    error.position.offset < text.utf8ByteSize ∧
      (String.Pos.Raw.mk error.position.offset).IsValid text ∧
      ∃ front rest : String, text = front ++ rest ∧
        front.utf8ByteSize = error.position.offset ∧
        (∃ placed, tokenize front = .ok placed) ∧
        (∀ c ∈ rest.toList.head?, isSpace c = false ∧ c ≠ '#') ∧
        Unreadable rest.toList := by
  obtain ⟨front, rest, parts, stands, read, filled, head, unreadable⟩ :=
    exists_unreadable_of_error failed
  have place : error.position = .after front := stands
  have whole : text = String.ofList front ++ String.ofList rest := by
    rw [← String.ofList_append, ← parts, String.ofList_toList]
  have before := Position.offset_lt_append front filled
  rw [← parts, ← place, offset_after, String.ofList_toList] at before
  refine ⟨before, (trueIn_of_error failed).boundary, String.ofList front, String.ofList rest,
    whole, by rw [place, offset_after], ?_, ?_, ?_⟩
  · rw [tokenize, String.toList_ofList]
    exact read
  · rwa [String.toList_ofList]
  · rwa [String.toList_ofList]

/-- A number that looks past its end at a point, after a string of more bytes than characters. -/
theorem stops_at_unreadable_point :
    tokenize "\"é\"1.x" = .error ⟨⟨5, 1, 5⟩, .strange '.'⟩ ∧
      5 < "\"é\"1.x".utf8ByteSize ∧ (String.Pos.Raw.mk 5).IsValid "\"é\"1.x" ∧
      ∃ front rest : String, "\"é\"1.x" = front ++ rest ∧ front.utf8ByteSize = 5 ∧
        (∃ placed, tokenize front = .ok placed) ∧
        (∀ c ∈ rest.toList.head?, isSpace c = false ∧ c ≠ '#') ∧
        Unreadable rest.toList := by
  have failed : tokenize "\"é\"1.x" = .error ⟨⟨5, 1, 5⟩, .strange '.'⟩ := by
    with_unfolding_all rfl
  exact ⟨failed, stops_at_unreadable failed⟩

end InputDocs.Token
