import InputDocs.Proofs.Doc.LineEnds
import InputDocs.Proofs.Token.Sequence

/-!
# Proofs.Token.LineEnds -- tokens of a text with carriage returns before its line feeds

A carriage return is a space, so between tokens it makes no difference (`splitGap_returned`). In a
comment it stays: a block has it inside, and a line comment, which ends before the line feed, has it
as its last character. Both are forgotten by the canonical comment. No other token goes over a line
end, unless it is a string, and then the string is another one.

So what is scanned from such a text is a `Twin` of what is scanned from the text without carriage
returns (`exists_twin`). A line comment that takes a carriage return ends one column further on,
but the line ends there, too: places stay abreast (`Position.Abreast`), on one line and, up to the
end of that line, in one column. With both the token lists are the same up to comments and offsets
(`tokenizeFrom_returned`).
-/

namespace InputDocs

set_option autoImplicit false

open Text (Returned)

/-! ## Places -/

namespace Position

/-- Two places before the same text are on one line, and unless the line ends there in one
column. -/
structure Abreast (first second : Position) (ahead : List Char) : Prop where
  line : second.line = first.line
  column : ahead.head? ≠ some '\n' → second.column = first.column

namespace Abreast

variable {first second : Position} {ahead : List Char}

theorem refl (place : Position) (ahead : List Char) : Abreast place place ahead :=
  ⟨rfl, fun _ => rfl⟩

theorem canonical (abreast : Abreast first second ahead) (inside : ahead.head? ≠ some '\n') :
    Rewording.canonical.place second = Rewording.canonical.place first := by
  obtain ⟨line, column⟩ := abreast
  simp only [Rewording.canonical, line, column inside]

/-- Places stay abreast over the text with and without carriage returns. -/
theorem advance {plain returned : List Char} (related : Returned plain returned)
    (abreast : Abreast first second (plain ++ ahead)) :
    Abreast (first.advance plain) (second.advance returned) ahead := by
  induction related generalizing first second with
  | nil => exact abreast
  | same c rest ih =>
      refine ih ?_
      unfold step
      by_cases feed : c = '\n'
      · rw [if_pos feed, if_pos feed]
        exact ⟨congrArg (· + 1) abreast.line, fun _ => rfl⟩
      · rw [if_neg feed, if_neg feed]
        exact ⟨abreast.line, fun _ => congrArg (· + 1) (abreast.column (by simpa using feed))⟩
  | feed rest ih =>
      refine ih ?_
      exact ⟨congrArg (· + 1) abreast.line, fun _ => rfl⟩

end Abreast

end Position

namespace Token

open Position (Abreast)

/-! ## Gaps -/

theorem splitGap_returned {plain returned : List Char} (related : Returned plain returned)
    (inComment : Bool) :
    Returned (splitGap inComment plain).1 (splitGap inComment returned).1 ∧
      Returned (splitGap inComment plain).2 (splitGap inComment returned).2 := by
  induction related generalizing inComment with
  | nil => exact ⟨.nil, .nil⟩
  | same c rest ih =>
      simp only [splitGap]
      split
      · exact ⟨.same c (ih _).1, (ih _).2⟩
      · split
        · exact ⟨.same c (ih _).1, (ih _).2⟩
        · split
          · exact ⟨.same c (ih _).1, (ih _).2⟩
          · exact ⟨.nil, .same c rest⟩
  | feed rest ih =>
      cases inComment with
      | true => exact ⟨.feed (ih _).1, (ih _).2⟩
      | false => exact ⟨.feed (ih _).1, (ih _).2⟩

/-! ## Block comments -/

theorem ClosesBlock.exists_append {body : List Char} (closes : ClosesBlock body) :
    ∃ inner, body = inner ++ "*/".toList := by
  induction closes with
  | close => exact ⟨[], rfl⟩
  | @plain c body inside closes ih =>
      obtain ⟨inner, rfl⟩ := ih
      exact ⟨c :: inner, rfl⟩

/-- A block ends where it ended. -/
theorem ClosesBlock.returned {body returned : List Char} (closes : ClosesBlock body)
    (related : Returned body returned) : ClosesBlock returned := by
  induction closes generalizing returned with
  | close =>
      rw [related.eq_of_notMem (by decide)]
      exact .close
  | @plain c body inside closes ih =>
      cases related with
      | @same _ _ returned rest =>
          refine .plain ?_ (ih rest)
          intro opens
          obtain ⟨rfl, slash⟩ := List.cons_prefix_cons.1 opens
          -- The slash stands in the block itself, right after the star.
          have head : '/' ∈ returned.head? := by
            obtain ⟨tail, rfl⟩ := slash
            rfl
          rcases rest.mem_head? '/' head with same | other
          · obtain ⟨tail, rfl⟩ := List.head?_eq_some_iff.1 same
            exact inside ⟨tail, rfl⟩
          · exact absurd other (by decide)
      | feed rest =>
          refine .plain ?_ (.plain ?_ (ih rest))
          · exact fun opens => absurd (List.cons_prefix_cons.1 opens).1 (by decide)
          · exact fun opens => absurd (List.cons_prefix_cons.1 opens).1 (by decide)

/-! ## One token -/

theorem feed_notMem_word {name : List Char} (word : IsWord name) : '\n' ∉ name :=
  fun member => absurd (isWordPart_of_isWord word '\n' member) (by decide)

theorem feed_notMem_digits {digits : List Char} (each : IsDigits digits) : '\n' ∉ digits :=
  fun member => absurd (each.2 '\n' member) (by decide)

theorem feed_notMem_decimal {text : List Char} (decimal : IsDecimal text) : '\n' ∉ text := by
  cases decimal with
  | whole each => exact feed_notMem_digits each
  | fraction each after =>
      rw [List.mem_append, List.mem_cons]
      rintro (whole | point | decimals)
      · exact feed_notMem_digits each whole
      · exact absurd point (by decide)
      · exact feed_notMem_digits after decimals

theorem feed_notMem_number {text : List Char} (number : IsNumber text) : '\n' ∉ text := by
  rcases number with decimal | ⟨digits, rfl, decimal⟩
  · exact feed_notMem_decimal decimal
  · rw [List.mem_cons]
    rintro (minus | inside)
    · exact absurd minus (by decide)
    · exact feed_notMem_decimal decimal inside

/-- No token but a line comment goes on with a carriage return. -/
theorem Stops.returned {token : Token} {more left : List Char} (stops : token.Stops more)
    (related : Returned more left) (other : ∀ text, token ≠ docLine text) : token.Stops left := by
  cases token with
  | docLine text => exact absurd rfl (other text)
  | word name =>
      intro c head
      rcases related.mem_head? c head with same | rfl
      · exact stops c same
      · rfl
  | number text =>
      obtain ⟨noDigit, noFraction⟩ := stops
      refine ⟨fun c head => ?_, noFraction.imp_right fun noPoint c rest point => ?_⟩
      · rcases related.mem_head? c head with same | rfl
        · exact noDigit c same
        · rfl
      · subst point
        cases related with
        | @same _ plain _ related =>
            rcases related.mem_head? c rfl with same | rfl
            · obtain ⟨tail, rfl⟩ := List.head?_eq_some_iff.1 same
              exact noPoint c tail rfl
            · rfl
  | _ => trivial

/-- `twin` is read up to `left` where `token` is read up to `more`, from the text with carriage
returns and from the text without. -/
structure Twin (token twin : Token) (more left : List Char) : Prop where
  lexeme : twin.IsLexeme
  stops : twin.Stops left
  related : Returned more left
  alike : twin.reword .canonical = token.reword .canonical
  abreast : ∀ first second, Abreast first second (token.text.toList ++ more) →
    Abreast (first.advance token.text.toList) (second.advance twin.text.toList) more

section

variable {token : Token} {more left : List Char}

theorem Twin.self (lexeme : token.IsLexeme) (stops : token.Stops left)
    (related : Returned more left) : Twin token token more left where
  lexeme := lexeme
  stops := stops
  related := related
  alike := rfl
  abreast _ _ abreast := abreast.advance (.refl _)

/-- A line comment takes the carriage return of its line end. -/
theorem exists_twin_docLine {text : String} (lexeme : (docLine text).IsLexeme)
    (stops : (docLine text).Stops more) (related : Returned more left) :
    ∃ twin after, text.toList ++ left = twin.text.toList ++ after ∧
      Twin (docLine text) twin more after := by
  cases related with
  | nil => exact ⟨docLine text, [], rfl, .self lexeme stops .nil⟩
  | same c rest => exact ⟨docLine text, _, rfl, .self lexeme stops (.same c rest)⟩
  | @feed plain returned rest =>
      obtain ⟨line, spelled, single⟩ := lexeme
      have written : (text ++ "\r").toList = "///".toList ++ (line ++ ['\r']) := by
        rw [String.toList_append, spelled]
        rfl
      refine ⟨docLine (text ++ "\r"), '\n' :: returned, ?_, ?_, ?_, .same '\n' rest, ?_, ?_⟩
      · simp [Token.text]
      · refine ⟨line ++ ['\r'], written, ?_⟩
        rw [List.forall_mem_append]
        exact ⟨single, by simp⟩
      · exact fun c head => (Option.some_inj.1 head).symm
      · change docLine (Doc.canonicalLine (text ++ "\r")) = docLine (Doc.canonicalLine text)
        rw [Doc.canonicalLine_of_toList written, Doc.canonicalLine_of_toList spelled,
          Unicode.trim_concat rfl]
      · -- The carriage return is one more column, and the line ends there.
        intro first second abreast
        have here := abreast.advance (.refl text.toList)
        simp only [Token.text, String.toList_append, Position.advance_append]
        exact ⟨here.line, fun inside => absurd rfl inside⟩

/-- A block comment has the carriage returns of the line ends in it. -/
theorem exists_twin_docBlock {text : String} {before : List Char}
    (lexeme : (docBlock text).IsLexeme) (own : Returned text.toList before)
    (related : Returned more left) :
    Twin (docBlock text) (docBlock (String.ofList before)) more left := by
  obtain ⟨body, spelled, closes⟩ := lexeme
  have parts : Returned ("/**".toList ++ body) before := by
    rw [spelled] at own
    exact own
  obtain ⟨opening, inner, rfl, mark, inside⟩ := parts.exists_append
  obtain rfl := mark.eq_of_notMem (by decide)
  refine ⟨⟨inner, String.toList_ofList, closes.returned inside⟩, trivial, related, ?_, ?_⟩
  · -- Both blocks have the same lines, up to what is trimmed off.
    obtain ⟨lines, rfl⟩ := closes.exists_append
    obtain ⟨others, closing, rfl, same, mark⟩ := inside.exists_append
    obtain rfl := mark.eq_of_notMem (by decide)
    refine congrArg docBlock (Doc.canonicalBlock_congr ?_)
    rw [Doc.blockLines_of_toList String.toList_ofList, Doc.blockLines_of_toList spelled]
    exact same.trim_lines
  · intro first second abreast
    rw [Token.text, Token.text, String.toList_ofList]
    exact abreast.advance own

/-- **What is scanned from a text with carriage returns is a twin of what is scanned without.** -/
theorem exists_twin {returned : List Char} (lexeme : token.IsLexeme) (stops : token.Stops more)
    (related : Returned (token.text.toList ++ more) returned)
    (oneLine : ∀ text, token = quoted text → '\n' ∉ text.toList) :
    ∃ twin left, returned = twin.text.toList ++ left ∧ Twin token twin more left := by
  obtain ⟨before, after, rfl, own, rest⟩ := related.exists_append
  -- A token on one line is its own twin.
  have single (lacks : '\n' ∉ token.text.toList) (other : ∀ text, token ≠ docLine text) :
      ∃ twin left, before ++ after = twin.text.toList ++ left ∧ Twin token twin more left := by
    rw [own.eq_of_notMem lacks]
    exact ⟨token, after, rfl, .self lexeme (stops.returned rest other) rest⟩
  cases token with
  | docLine text =>
      obtain ⟨line, spelled, inside⟩ := lexeme
      have lacks : '\n' ∉ text.toList := by
        rw [spelled]
        simpa using fun member => inside _ member rfl
      rw [own.eq_of_notMem lacks]
      exact exists_twin_docLine ⟨line, spelled, inside⟩ stops rest
  | docBlock text =>
      refine ⟨docBlock (String.ofList before), after, ?_, exists_twin_docBlock lexeme own rest⟩
      rw [Token.text, String.toList_ofList]
  | quoted text => exact single (oneLine text rfl) (by simp)
  | number text => exact single (feed_notMem_number lexeme) (by simp)
  | word name => exact single (feed_notMem_word lexeme) (by simp)
  | _ => exact single (by decide) (by simp)

end

/-! ## Whole texts -/

/-- A token does not begin with the end of a line. -/
theorem head?_ne_feed_of_isLexeme {token : Token} {more : List Char} (lexeme : token.IsLexeme)
    (stops : token.Stops more) : (token.text.toList ++ more).head? ≠ some '\n' := by
  intro feed
  obtain ⟨rest, begins⟩ := List.head?_eq_some_iff.1 feed
  have nothing := splitGap_of_isLexeme lexeme stops
  rw [begins] at nothing
  cases nothing

/-- **Carriage returns before line feeds leave the tokens as they are**, up to the texts of
comments, which say the same, and to offsets. -/
theorem tokenizeFrom_returned {place other : Position} {plain returned : List Char}
    {placed : List Placed} (read : tokenizeFrom place plain = .ok placed)
    (related : Returned plain returned) (abreast : Abreast place other plain)
    (oneLine : ∀ token ∈ placed, ∀ text, token.token = .quoted text → '\n' ∉ text.toList) :
    ∃ twins, tokenizeFrom other returned = .ok twins ∧
      twins.map (Placed.reword .canonical) = placed.map (Placed.reword .canonical) := by
  refine tokenizeFrom_induction (motive := fun place plain placed =>
    ∀ other returned, Returned plain returned → Abreast place other plain →
      (∀ token ∈ placed, ∀ text, token.token = .quoted text → '\n' ∉ text.toList) →
        ∃ twins, tokenizeFrom other returned = .ok twins ∧
          twins.map (Placed.reword .canonical) = placed.map (Placed.reword .canonical))
    ?_ ?_ read other returned related abreast oneLine
  · intro place plain between other returned related _ _
    obtain ⟨_, nothing⟩ := splitGap_returned related false
    rw [between] at nothing
    refine ⟨[], ?_, rfl⟩
    rw [tokenizeFrom_eq, nothing.eq_of_notMem List.not_mem_nil, tokensAt]
  · intro place plain gap token more others between lexeme stops ih other returned related abreast
      oneLine
    obtain ⟨here, later⟩ := List.forall_mem_cons.1 oneLine
    -- Over the gap the places stay abreast, and the token stands at the second one.
    obtain ⟨gaps, following⟩ := splitGap_returned related false
    have whole := splitGap_append false plain
    rw [between] at gaps following whole
    obtain ⟨twin, left, spelled, twins⟩ := exists_twin lexeme stops following here
    have start : Abreast (place.advance gap) (other.advance (splitGap false returned).1)
        (token.text.toList ++ more) :=
      Abreast.advance gaps (by rwa [whole])
    obtain ⟨rest, read, alike⟩ := ih _ left twins.related (twins.abreast _ _ start) later
    refine ⟨⟨twin, other.advance (splitGap false returned).1⟩ :: rest, ?_, ?_⟩
    · refine tokenizeFrom_token ?_ twins.lexeme twins.stops read
      rw [← spelled]
    · have placedAlike := start.canonical (head?_ne_feed_of_isLexeme lexeme stops)
      rw [List.map_cons, List.map_cons, alike, Placed.reword, twins.alike, placedAlike]
      rfl

end Token

end InputDocs
