import InputDocs.Proofs.Token.Lexeme

/-!
# Proofs.Token.Sequence -- what a whole text reads as

`tokenizeFrom` splits off a gap, scans one token and goes on. `tokensAt` is what it does after the
gap, so that one equation (`tokenizeFrom_eq`) opens a step, whatever the case.

`Lexes text kinds` says that the text reads as these tokens wherever it begins. Such texts are put
together from the back: nothing reads as no token (`Lexes.nil`), a space before a text changes
nothing (`Lexes.space`), and the text of a lexeme that may end there puts its token in front
(`Lexes.token`). The other way, all that is read are lexemes (`tokenizeFrom_isLexeme`).
-/

namespace InputDocs.Token

set_option autoImplicit false

/-! ## One step -/

/-- The tokens of a text that begins at `here` and not with a gap. -/
def tokensAt (here : Position) : List Char → Except LexicalError (List Placed)
  | [] => .ok []
  | c :: rest =>
    match scan c rest with
    | .error fault => .error ⟨here, fault⟩
    | .ok (token, more) =>
      (tokenizeFrom (here.advance token.text.toList) more).map (⟨token, here⟩ :: ·)

theorem tokenizeFrom_eq (place : Position) (text : List Char) :
    tokenizeFrom place text =
      tokensAt (place.advance (splitGap false text).1) (splitGap false text).2 := by
  rw [tokenizeFrom]
  split
  · rename_i between
    rw [between, tokensAt]
  · rename_i c rest between
    rw [between, tokensAt]
    split
    · rename_i fault scanned
      rw [scanned]
    · rename_i token more scanned
      rw [scanned]
      rfl

/-- No token starts with a character of a gap. -/
theorem splitGap_of_scan {c : Char} {rest more : List Char} {token : Token}
    (scanned : scan c rest = .ok (token, more)) : splitGap false (c :: rest) = ([], c :: rest) := by
  have starts : [' ', '\t', '\r', '\n', '#'].all (fun gap =>
      !marks.contains gap && !Text.isDigit gap && !isWordStart gap) = true := rfl
  have noGap : c ∉ [' ', '\t', '\r', '\n', '#'] := by
    intro member
    have strange := List.all_eq_true.1 starts c member
    simp only [Bool.and_eq_true, Bool.not_eq_true', List.contains_eq_mem, decide_eq_false_iff_not]
      at strange
    obtain ⟨⟨noMark, noDigit⟩, noWord⟩ := strange
    simp [scan_of_notMem_marks noMark, noDigit, noWord] at scanned
  simp only [List.mem_cons, List.not_mem_nil, or_false, not_or] at noGap
  simp [splitGap, isSpace, noGap]

/-- A lexeme that may end where it does begins with no gap. -/
theorem splitGap_of_isLexeme {token : Token} {more : List Char} (lexeme : token.IsLexeme)
    (stops : token.Stops more) :
    splitGap false (token.text.toList ++ more) = ([], token.text.toList ++ more) := by
  obtain ⟨c, tail, spelled⟩ := List.exists_cons_of_ne_nil lexeme.text_ne_nil
  have written : token.text.toList ++ more = c :: (tail ++ more) := by
    rw [spelled, List.cons_append]
  rw [written]
  exact splitGap_of_scan (scan_eq_ok_iff.2 ⟨written, lexeme, stops⟩)

/-- After the gap stands a lexeme, and it is read. -/
theorem tokenizeFrom_token {place : Position} {text gap more : List Char} {token : Token}
    {others : List Placed} (between : splitGap false text = (gap, token.text.toList ++ more))
    (lexeme : token.IsLexeme) (stops : token.Stops more)
    (rest : tokenizeFrom ((place.advance gap).advance token.text.toList) more = .ok others) :
    tokenizeFrom place text = .ok (⟨token, place.advance gap⟩ :: others) := by
  obtain ⟨c, tail, spelled⟩ := List.exists_cons_of_ne_nil lexeme.text_ne_nil
  have written : token.text.toList ++ more = c :: (tail ++ more) := by
    rw [spelled, List.cons_append]
  have scanned : scan c (tail ++ more) = .ok (token, more) :=
    scan_eq_ok_iff.2 ⟨written, lexeme, stops⟩
  rw [tokenizeFrom_eq, between, written]
  simp only [tokensAt, scanned, rest]
  rfl

/-- Induction on the tokens that are read. A text of gaps has none, and otherwise a lexeme stands
after the gap and more is read from where it ends. -/
theorem tokenizeFrom_induction {motive : Position → List Char → List Placed → Prop}
    (last : ∀ place text, (splitGap false text).2 = [] → motive place text [])
    (token : ∀ place text gap (token : Token) more others,
      splitGap false text = (gap, token.text.toList ++ more) → token.IsLexeme → token.Stops more →
      motive ((place.advance gap).advance token.text.toList) more others →
        motive place text (⟨token, place.advance gap⟩ :: others))
    {place : Position} {text : List Char} {placed : List Placed}
    (read : tokenizeFrom place text = .ok placed) : motive place text placed := by
  fun_induction tokenizeFrom place text generalizing placed with
  | case1 place text between =>
      cases read
      exact last place text between
  | case2 => cases read
  | case3 place text next c rest between first more scanned =>
      rename_i ih
      cases found : tokenizeFrom (next.advance first.text.toList) more with
      | error error =>
          rw [found] at read
          cases read
      | ok others =>
          rw [found] at read
          cases read
          obtain ⟨written, lexeme, stops⟩ := scan_eq_ok_iff.1 scanned
          refine token place text _ first more others ?_ lexeme stops (ih found)
          rw [written, ← between]

/-- Induction on the tokens that are read before an error. After the gap a scan fails, or a lexeme
stands there and the error comes after it. -/
theorem tokenizeFrom_error_induction {motive : Position → List Char → LexicalError → Prop}
    (here : ∀ place text gap c rest fault, splitGap false text = (gap, c :: rest) →
      scan c rest = .error fault → motive place text ⟨place.advance gap, fault⟩)
    (later : ∀ place text gap (token : Token) more error,
      splitGap false text = (gap, token.text.toList ++ more) → token.IsLexeme → token.Stops more →
      motive ((place.advance gap).advance token.text.toList) more error → motive place text error)
    {place : Position} {text : List Char} {error : LexicalError}
    (failed : tokenizeFrom place text = .error error) : motive place text error := by
  fun_induction tokenizeFrom place text with
  | case1 => cases failed
  | case2 place text next c rest between fault scanned =>
      cases failed
      exact here place text _ c rest fault (by rw [← between]) scanned
  | case3 place text next c rest between token more scanned =>
      rename_i ih
      cases found : tokenizeFrom (next.advance token.text.toList) more with
      | ok others =>
          rw [found] at failed
          cases failed
      | error inner =>
          rw [found] at failed
          cases failed
          obtain ⟨written, lexeme, stops⟩ := scan_eq_ok_iff.1 scanned
          exact later place text _ token more _ (by rw [written, ← between]) lexeme stops (ih found)

/-! ## Texts that read as given tokens -/

/-- The text reads as these tokens, wherever it begins. -/
def Lexes (text : List Char) (kinds : List Token) : Prop :=
  ∀ place, ∃ placed, tokenizeFrom place text = .ok placed ∧ placed.map Placed.token = kinds

theorem Lexes.nil : Lexes [] [] := by
  intro place
  exact ⟨[], by rw [tokenizeFrom_eq]; rfl, rfl⟩

theorem Lexes.space {c : Char} {more : List Char} {kinds : List Token} (space : isSpace c = true)
    (lexes : Lexes more kinds) : Lexes (c :: more) kinds := by
  intro place
  obtain ⟨placed, read, same⟩ := lexes (place.step c)
  refine ⟨placed, ?_, same⟩
  have gap : splitGap false (c :: more) =
      (c :: (splitGap false more).1, (splitGap false more).2) := by
    simp [splitGap, space]
  rw [tokenizeFrom_eq, gap, Position.advance_cons, ← tokenizeFrom_eq, read]

theorem Lexes.token {token : Token} {more : List Char} {kinds : List Token}
    (lexeme : token.IsLexeme) (stops : token.Stops more) (lexes : Lexes more kinds) :
    Lexes (token.text.toList ++ more) (token :: kinds) := by
  intro place
  obtain ⟨placed, read, same⟩ := lexes (place.advance token.text.toList)
  refine ⟨⟨token, place⟩ :: placed, ?_, by rw [List.map_cons, same]⟩
  exact tokenizeFrom_token (splitGap_of_isLexeme lexeme stops) lexeme stops read

theorem Lexes.mark {c : Char} {token : Token} {more : List Char} {kinds : List Token}
    (found : mark? c = some token) (lexes : Lexes more kinds) :
    Lexes (c :: more) (token :: kinds) := by
  obtain ⟨lexeme, stops⟩ := isLexeme_of_mark? found more
  have spelled := Lexes.token lexeme stops lexes
  rw [text_of_mark? found] at spelled
  exact spelled

/-! ## What is read -/

/-- Every token that is read is a lexeme of its class. -/
theorem tokenizeFrom_isLexeme {place : Position} {text : List Char} {placed : List Placed}
    (read : tokenizeFrom place text = .ok placed) : ∀ token ∈ placed, token.token.IsLexeme := by
  refine tokenizeFrom_induction (motive := fun _ _ placed =>
    ∀ token ∈ placed, token.token.IsLexeme) ?_ ?_ read
  · exact fun place text _ token member => absurd member List.not_mem_nil
  · intro place text gap token more others between lexeme stops ih
    exact List.forall_mem_cons.2 ⟨lexeme, ih⟩

end InputDocs.Token
