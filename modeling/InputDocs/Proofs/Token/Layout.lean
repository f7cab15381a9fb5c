import InputDocs.Proofs.Token.Sequence

/-!
# Proofs.Token.Layout -- a text as lexemes with gaps between them

`LaidOut before placed text` says, without the tokenizer, that the text after `before` consists of
the given tokens: a gap, the text of a token, a gap, and so on, with a gap at the end. Every gap is
made of spaces and comments (`IsGap`), every token is a lexeme of its class that ends where it may
(`IsLexeme`, `Stops`), and stands at the place that is given with it.

* The tokenizer answers exactly the layout of the text (`tokenize_eq_ok_iff_laidOut`). So nothing
  is lost between the tokens, and a text has at most one layout.
* Conversely any lexemes can be laid out with any separators (`tokenize_spread`): all that is asked
  is that two tokens are parted at all, and that a line comment ends with its line.
-/

namespace InputDocs.Token

set_option autoImplicit false

/-! ## Gaps -/

/-- Spaces and comments before `more`. A comment runs up to a line feed or the end of the text. -/
inductive IsGap (more : List Char) : List Char → Prop
  | nil : IsGap more []
  | space {c : Char} {gap : List Char} (space : isSpace c = true) (rest : IsGap more gap) :
      IsGap more (c :: gap)
  | comment {line gap : List Char} (inside : ∀ c ∈ line, c ≠ '\n')
      (ends : ∀ c ∈ (gap ++ more).head?, c = '\n') (rest : IsGap more gap) :
      IsGap more ('#' :: (line ++ gap))

/-- In a comment everything up to the end of the line is skipped. -/
theorem splitGap_comment {line rest : List Char} (inside : ∀ c ∈ line, c ≠ '\n')
    (ends : ∀ c ∈ rest.head?, c = '\n') :
    splitGap true (line ++ rest) = (line ++ (splitGap false rest).1, (splitGap false rest).2) := by
  induction line with
  | nil =>
      cases rest with
      | nil => rfl
      | cons c rest =>
          obtain rfl : c = '\n' := ends c (by simp)
          simp [splitGap, isSpace]
  | cons c line ih =>
      obtain ⟨noFeed, inside⟩ := List.forall_mem_cons.1 inside
      simp [splitGap, noFeed, ih inside]

/-- What is split off is a gap. -/
theorem isGap_splitGap (text : List Char) :
    IsGap (splitGap false text).2 (splitGap false text).1 := by
  induction length : text.length using Nat.strong_induction_on generalizing text with
  | _ n ih =>
      subst length
      cases text with
      | nil => exact .nil
      | cons c rest =>
          by_cases space : isSpace c = true
          · have gap := ih rest.length (by simp) rest rfl
            simpa [splitGap, space] using IsGap.space space gap
          by_cases hash : c = '#'
          · subst hash
            -- The comment is the rest of the line, and the gap goes on after it.
            let line := rest.takeWhile (· ≠ '\n')
            let after := rest.dropWhile (· ≠ '\n')
            have parts : line ++ after = rest := List.takeWhile_append_dropWhile
            have inside : ∀ c ∈ line, c ≠ '\n' := by
              intro c member
              simpa using List.mem_takeWhile_imp member
            have ends : ∀ c ∈ after.head?, c = '\n' := by
              intro c head
              simpa using head?_dropWhile_run head
            have shorter : after.length < ('#' :: rest).length := by
              rw [List.length_cons, ← parts, List.length_append]
              omega
            have gap := ih after.length shorter after rfl
            have skipped : splitGap false ('#' :: rest) =
                ('#' :: (line ++ (splitGap false after).1), (splitGap false after).2) := by
              rw [← parts]
              simp [splitGap, isSpace, splitGap_comment inside ends]
            rw [skipped]
            refine .comment inside ?_ gap
            rwa [splitGap_append]
          · have nothing : splitGap false (c :: rest) = ([], c :: rest) := by
              simp [splitGap, space, hash]
            rw [nothing]
            exact .nil

/-- A gap is split off whole where none goes on. -/
theorem splitGap_of_isGap {gap more : List Char} (isGap : IsGap more gap)
    (ends : splitGap false more = ([], more)) : splitGap false (gap ++ more) = (gap, more) := by
  induction isGap with
  | nil => exact ends
  | space space rest ih => simp [splitGap, space, ih]
  | comment inside feed rest ih =>
      rw [List.cons_append, List.append_assoc]
      simp [splitGap, isSpace, splitGap_comment inside feed, ih]

/-! ## Layouts -/

/-- The text after `before` consists of these tokens and of gaps. -/
inductive LaidOut : List Char → List Placed → List Char → Prop
  | last {before gap : List Char} (between : IsGap [] gap) : LaidOut before [] gap
  | token {before gap more : List Char} {token : Token} {others : List Placed}
      (between : IsGap (token.text.toList ++ more) gap) (lexeme : token.IsLexeme)
      (stops : token.Stops more)
      (rest : LaidOut (before ++ gap ++ token.text.toList) others more) :
      LaidOut before (⟨token, .after (before ++ gap)⟩ :: others)
        (gap ++ (token.text.toList ++ more))

theorem after_append (before text : List Char) :
    (Position.after before).advance text = .after (before ++ text) :=
  (Position.advance_append .start before text).symm

/-- What is read is the layout of the text. -/
theorem laidOut_of_tokenizeFrom {place : Position} {text : List Char} {placed : List Placed}
    (read : tokenizeFrom place text = .ok placed) {before : List Char}
    (here : place = .after before) : LaidOut before placed text := by
  refine tokenizeFrom_induction (motive := fun place text placed =>
    ∀ before, place = .after before → LaidOut before placed text) ?_ ?_ read before here
  · intro place text between before here
    have whole := splitGap_append false text
    have gap := isGap_splitGap text
    rw [between, List.append_nil] at whole
    rw [between, whole] at gap
    exact .last gap
  · rintro place text gap token more others between lexeme stops ih before rfl
    have whole := splitGap_append false text
    have isGap := isGap_splitGap text
    rw [between] at whole isGap
    have later := ih (before ++ gap ++ token.text.toList) (by rw [after_append, after_append])
    have laid := LaidOut.token isGap lexeme stops later
    rwa [whole, ← after_append] at laid

/-- The layout of a text is what is read. -/
theorem LaidOut.tokenizeFrom {before text : List Char} {placed : List Placed}
    (laid : LaidOut before placed text) :
    tokenizeFrom (.after before) text = .ok placed := by
  induction laid with
  | @last before gap between =>
      have split := splitGap_of_isGap between rfl
      rw [List.append_nil] at split
      rw [tokenizeFrom_eq, split, tokensAt]
  | @token before gap more token others between lexeme stops rest ih =>
      have split : splitGap false (gap ++ (token.text.toList ++ more)) =
          (gap, token.text.toList ++ more) :=
        splitGap_of_isGap between (splitGap_of_isLexeme lexeme stops)
      rw [← after_append]
      refine tokenizeFrom_token split lexeme stops ?_
      rw [after_append, after_append, ih]

/-- The offset of a place counts the bytes of the text before it. -/
theorem offset_after (text : List Char) :
    (Position.after text).offset = (String.ofList text).utf8ByteSize := by
  have walked : ∀ place : Position, (place.advance text).offset =
      place.offset + (String.ofList text).utf8ByteSize := by
    induction text with
    | nil => simp
    | cons c rest ih =>
        intro place
        rw [Position.advance_cons, ih, Position.step, String.ofList_cons,
          String.utf8ByteSize_append, String.utf8ByteSize_singleton, ← Nat.add_assoc]
        split <;> rfl
  rw [Position.after, walked, Position.start, Nat.zero_add]

/-- **Reading loses nothing.** The tokenizer answers exactly the layout of the text: its tokens, in
order and up to gaps the whole text, each a lexeme of its class that ends where it has to, at an
offset that is the number of bytes before it. -/
theorem tokenize_eq_ok_iff_laidOut {text : String} {placed : List Placed} :
    (tokenize text = .ok placed ↔ LaidOut [] placed text.toList) ∧
      ∀ before : List Char, (Position.after before).offset = (String.ofList before).utf8ByteSize :=
  ⟨⟨fun read => laidOut_of_tokenizeFrom read rfl, LaidOut.tokenizeFrom⟩, offset_after⟩

/-! ## Any separators -/

/-- Spaces, and comments that end with a line feed. -/
inductive IsSeparator : List Char → Prop
  | nil : IsSeparator []
  | space {c : Char} {rest : List Char} (space : isSpace c = true) (after : IsSeparator rest) :
      IsSeparator (c :: rest)
  | comment {line rest : List Char} (inside : ∀ c ∈ line, c ≠ '\n') (after : IsSeparator rest) :
      IsSeparator ('#' :: (line ++ '\n' :: rest))

/-- A separator is a gap whatever follows it. -/
theorem IsSeparator.isGap {separator : List Char} (separates : IsSeparator separator)
    (more : List Char) : IsGap more separator := by
  induction separates with
  | nil => exact .nil
  | space space _ ih => exact .space space ih
  | comment inside _ ih =>
      refine .comment inside ?_ (.space rfl ih)
      intro c head
      exact (Option.some_inj.1 head).symm

theorem IsSeparator.head_cases {separator : List Char} (separates : IsSeparator separator) :
    ∀ c ∈ separator.head?, isSpace c = true ∨ c = '#' := by
  intro c head
  cases separates with
  | nil => cases head
  | space space _ =>
      obtain rfl := Option.some_inj.1 head
      exact .inl space
  | comment =>
      obtain rfl := Option.some_inj.1 head
      exact .inr rfl

/-- Every token may end before a separator or at the end of the text. A line comment needs a
separator that begins with a line feed. -/
theorem stops_of_separator {token : Token} {separator more : List Char}
    (separates : IsSeparator separator) (parted : separator = [] → more = [])
    (line : ∀ text, token = docLine text → ∀ c ∈ separator.head?, c = '\n') :
    token.Stops (separator ++ more) := by
  have starts : ∀ c ∈ (separator ++ more).head?, c ∈ separator.head? := by
    intro c head
    cases separator with
    | nil =>
        rw [parted rfl] at head
        exact head
    | cons => exact head
  have other : ∀ c ∈ (separator ++ more).head?, c ∈ [' ', '\t', '\r', '\n', '#'] := by
    intro c head
    rcases separates.head_cases c (starts c head) with space | hash
    · simpa [isSpace, or_assoc] using Or.inl space
    · simp [hash]
  cases token with
  | docLine text => exact fun c head => line text rfl c (starts c head)
  | number text =>
      have noNumber : ∀ c ∈ [' ', '\t', '\r', '\n', '#'],
          Text.isDigit c = false ∧ c ≠ '.' := by
        simp [Text.isDigit]
      refine ⟨fun c head => (noNumber c (other c head)).1, .inr ?_⟩
      intro c rest point
      rw [point] at other
      exact absurd rfl (noNumber '.' (other '.' rfl)).2
  | word name =>
      have noWord : ∀ c ∈ [' ', '\t', '\r', '\n', '#'], isWordPart c = false := by
        simp [isWordPart]
      exact fun c head => noWord c (other c head)
  | _ => trivial

/-- The text of tokens, each with a separator after it. -/
def spread (items : List (Token × List Char)) : List Char :=
  items.flatMap fun item => item.1.text.toList ++ item.2

/-- **The layout does not matter.** Any lexemes with any separators around them read as just these
tokens: two tokens must be parted by something, and what follows a line comment must begin with
the end of its line. -/
theorem tokenize_spread {lead : List Char} {items : List (Token × List Char)}
    (leads : IsSeparator lead) (lexemes : ∀ item ∈ items, item.1.IsLexeme)
    (separate : ∀ item ∈ items, IsSeparator item.2) (parted : ∀ item ∈ items.dropLast, item.2 ≠ [])
    (lines : ∀ text separator, (docLine text, separator) ∈ items →
      ∀ c ∈ separator.head?, c = '\n') :
    ∃ placed, tokenize (String.ofList (lead ++ spread items)) = .ok placed ∧
      placed.map Placed.token = items.map Prod.fst := by
  have laid : ∀ before, ∃ placed, LaidOut before placed (lead ++ spread items) ∧
      placed.map Placed.token = items.map Prod.fst := by
    induction items generalizing lead with
    | nil =>
        intro before
        refine ⟨[], ?_, rfl⟩
        rw [spread, List.flatMap_nil, List.append_nil]
        exact .last (leads.isGap [])
    | cons item rest ih =>
        obtain ⟨token, separator⟩ := item
        intro before
        obtain ⟨lexeme, lexemes⟩ := List.forall_mem_cons.1 lexemes
        obtain ⟨separates, separate⟩ := List.forall_mem_cons.1 separate
        have last : separator = [] → spread rest = [] := by
          intro empty
          cases rest with
          | nil => rfl
          | cons next others => exact absurd empty (parted _ List.mem_cons_self)
        have partedRest : ∀ item ∈ rest.dropLast, item.2 ≠ [] := by
          intro item member
          cases rest with
          | nil => cases member
          | cons next others => exact parted item (List.mem_cons_of_mem _ member)
        have stops : token.Stops (separator ++ spread rest) := by
          refine stops_of_separator separates last ?_
          rintro text rfl
          exact lines text separator List.mem_cons_self
        obtain ⟨placed, laid, kinds⟩ := ih separates lexemes separate partedRest
          (fun text separator member => lines text separator (List.mem_cons_of_mem _ member))
          (before ++ lead ++ token.text.toList)
        have whole := LaidOut.token (leads.isGap _) lexeme stops laid
        refine ⟨⟨token, .after (before ++ lead)⟩ :: placed, ?_, ?_⟩
        · simpa [spread] using whole
        · rw [List.map_cons, List.map_cons, kinds]
  obtain ⟨placed, laid, kinds⟩ := laid []
  refine ⟨placed, ?_, kinds⟩
  rw [tokenize, String.toList_ofList]
  exact laid.tokenizeFrom

/-- Comments of both kinds, a string with a hash and an escaped quote in it, and no space at all
after the last token. -/
theorem tokenize_spread_comments :
    let items := [(docLine "/// a#", "\n # b\n".toList), (word "k_1", "\t".toList),
      (number "-1.5", "#\r\n".toList), (quoted "\"\\\"#\"", [])]
    (∀ item ∈ items, item.1.IsLexeme) ∧ (∀ item ∈ items, IsSeparator item.2) ∧
      ∃ placed, tokenize (String.ofList ("# x\n ".toList ++ spread items)) = .ok placed ∧
        placed.map Placed.token = items.map Prod.fst := by
  have comment : (docLine "/// a#").IsLexeme := ⟨[' ', 'a', '#'], rfl, by simp⟩
  have key : (word "k_1").IsLexeme := ⟨'k', ['_', '1'], rfl, rfl, List.all_eq_true.1 rfl⟩
  have value : (number "-1.5").IsLexeme :=
    .inr ⟨['1'] ++ '.' :: ['5'], rfl,
      .fraction ⟨List.cons_ne_nil _ _, List.all_eq_true.1 rfl⟩
        ⟨List.cons_ne_nil _ _, List.all_eq_true.1 rfl⟩⟩
  have text : (quoted "\"\\\"#\"").IsLexeme :=
    ⟨['\\', '"', '#', '"'], rfl, .escape '"' (.plain (by decide) (by decide) .quote)⟩
  have leads : IsSeparator ('#' :: ([' ', 'x'] ++ '\n' :: [' '])) :=
    .comment (by simp) (.space rfl .nil)
  have between : IsSeparator ('\n' :: ' ' :: '#' :: ([' ', 'b'] ++ '\n' :: [])) :=
    .space rfl (.space rfl (.comment (by simp) .nil))
  have ends : IsSeparator ('#' :: (['\r'] ++ '\n' :: [])) := .comment (by simp) .nil
  intro items
  have lexemes : ∀ item ∈ items, item.1.IsLexeme := by
    simp only [items, List.forall_mem_cons]
    exact ⟨comment, key, value, text, by simp⟩
  have separate : ∀ item ∈ items, IsSeparator item.2 := by
    simp only [items, List.forall_mem_cons]
    exact ⟨between, .space rfl .nil, ends, .nil, by simp⟩
  refine ⟨lexemes, separate, tokenize_spread leads lexemes separate (by decide) ?_⟩
  simp [items]

end InputDocs.Token
