import InputDocs.Text.Digit
import InputDocs.Token

/-!
# Token.Scan -- reading a text as tokens

Between tokens stand gaps: spaces, tabs, carriage returns, line feeds, and comments from `#` to
the end of the line. After a gap the first character decides the class of the token, and
`Token.scan` reads it:

* a word takes letters, digits and underscores, and does not start with a digit;
* a number takes an optional minus, digits, and a point only where a digit follows it;
* a string ends at the first quote that no backslash takes with it;
* a block comment ends at the first `*/` that begins at or after its fourth character;
* a line comment ends before the line feed.

What is read is always the beginning of what was there (`scan_append`), so a token list loses
nothing but the gaps, and `tokenize` walks a strictly shorter text at each token.
-/

namespace InputDocs.Token

set_option autoImplicit false

/-- Why no token starts where one should. -/
inductive Fault where
  | unclosedBlock
  /-- A slash that starts no doc comment. -/
  | loneSlash
  | unclosedString
  /-- A minus without a digit after it. -/
  | loneMinus
  | strange (c : Char)
  deriving DecidableEq, Repr

/-- The wording of a fault. -/
def Fault.message : Fault → String
  | unclosedBlock => "unterminated doc block comment"
  | loneSlash => "unexpected `/`; only `///` and `/** */` comments are allowed"
  | unclosedString => "unterminated string literal"
  | loneMinus => "expected digits after `-`"
  | strange c => "unexpected character `" ++ c.toString ++ "`"

/-! ## Gaps -/

/-- The four characters that part tokens. -/
def isSpace (c : Char) : Bool := c = ' ' || c = '\t' || c = '\r' || c = '\n'

/-- Split off the gap at the beginning; `inComment` says whether a `#` comment is open. A line
feed closes the comment and belongs to the gap. -/
def splitGap (inComment : Bool) : List Char → List Char × List Char
  | [] => ([], [])
  | c :: rest =>
    if inComment then
      let (gap, more) := splitGap (c ≠ '\n') rest
      (c :: gap, more)
    else if isSpace c then
      let (gap, more) := splitGap false rest
      (c :: gap, more)
    else if c = '#' then
      let (gap, more) := splitGap true rest
      (c :: gap, more)
    else ([], c :: rest)

/-! ## The classes -/

/-- Whether a word may start with the character. -/
def isWordStart (c : Char) : Bool := c.isAlpha || c = '_'

/-- Whether a word may go on with the character. -/
def isWordPart (c : Char) : Bool := c.isAlphanum || c = '_'

/-- The text up to and with the `*/` that ends a block, and the text after it. -/
def splitBlock : List Char → Option (List Char × List Char)
  | '*' :: '/' :: rest => some (['*', '/'], rest)
  | c :: rest => (splitBlock rest).map fun (body, more) => (c :: body, more)
  | [] => none

/-- The text up to and with the quote that ends a string, and the text after it. -/
def splitString : List Char → Option (List Char × List Char)
  | '"' :: rest => some (['"'], rest)
  | '\\' :: c :: rest => (splitString rest).map fun (body, more) => ('\\' :: c :: body, more)
  | c :: rest => (splitString rest).map fun (body, more) => (c :: body, more)
  | [] => none

/-- Digits, with a fraction where a digit follows the point. -/
def splitDecimal (text : List Char) : List Char × List Char :=
  let whole := text.takeWhile Text.isDigit
  match text.dropWhile Text.isDigit with
  | '.' :: c :: rest =>
    if Text.isDigit c then
      (whole ++ '.' :: c :: rest.takeWhile Text.isDigit, rest.dropWhile Text.isDigit)
    else (whole, '.' :: c :: rest)
  | rest => (whole, rest)

/-- The token of a punctuation mark. -/
def mark? (c : Char) : Option Token :=
  if c = '(' then some openParen
  else if c = ')' then some closeParen
  else if c = '\x7b' then some openBrace
  else if c = '\x7d' then some closeBrace
  else if c = '=' then some equals
  else if c = ',' then some comma
  else none

/-- Read what follows a slash. -/
def scanComment : List Char → Except Fault (Token × List Char)
  | '*' :: '*' :: inner =>
    match splitBlock inner with
    | some (body, more) => .ok (docBlock (String.ofList ('/' :: '*' :: '*' :: body)), more)
    | none => .error .unclosedBlock
  | '/' :: '/' :: inner =>
    .ok (docLine (String.ofList ('/' :: '/' :: '/' :: inner.takeWhile (· ≠ '\n'))),
      inner.dropWhile (· ≠ '\n'))
  | _ => .error .loneSlash

/-- Read what follows a quote. -/
def scanString (rest : List Char) : Except Fault (Token × List Char) :=
  match splitString rest with
  | some (body, more) => .ok (quoted (String.ofList ('"' :: body)), more)
  | none => .error .unclosedString

/-- Read what follows a minus. -/
def scanNegative : List Char → Except Fault (Token × List Char)
  | [] => .error .loneMinus
  | c :: rest =>
    if Text.isDigit c then
      let (digits, more) := splitDecimal (c :: rest)
      .ok (number (String.ofList ('-' :: digits)), more)
    else .error .loneMinus

/-- Read the token that starts with `c`, and return the text after it. -/
def scan (c : Char) (rest : List Char) : Except Fault (Token × List Char) :=
  match mark? c with
  | some token => .ok (token, rest)
  | none =>
    if c = '/' then scanComment rest
    else if c = '"' then scanString rest
    else if c = '-' then scanNegative rest
    else if Text.isDigit c then
      let (digits, more) := splitDecimal (c :: rest)
      .ok (number (String.ofList digits), more)
    else if isWordStart c then
      .ok (word (String.ofList (c :: rest.takeWhile isWordPart)), rest.dropWhile isWordPart)
    else .error (.strange c)

/-! ## What is read stands at the beginning -/

theorem splitGap_append (inComment : Bool) (text : List Char) :
    (splitGap inComment text).1 ++ (splitGap inComment text).2 = text := by
  induction text generalizing inComment with
  | nil => rfl
  | cons c rest ih =>
    simp only [splitGap]
    split
    · simp [ih]
    · split
      · simp [ih]
      · split
        · simp [ih]
        · simp

theorem splitBlock_append {text body more : List Char}
    (h : splitBlock text = some (body, more)) : body ++ more = text := by
  fun_induction splitBlock text generalizing body more with
  | case1 rest =>
    obtain ⟨rfl, rfl⟩ := by simpa using h
    rfl
  | case2 c rest _ ih =>
    obtain ⟨⟨b, m⟩, found, same⟩ := Option.map_eq_some_iff.1 h
    obtain ⟨rfl, rfl⟩ := by simpa using same
    simp [ih found]
  | case3 => simp at h

theorem splitString_append {text body more : List Char}
    (h : splitString text = some (body, more)) : body ++ more = text := by
  fun_induction splitString text generalizing body more with
  | case1 rest =>
    obtain ⟨rfl, rfl⟩ := by simpa using h
    rfl
  | case2 c rest ih =>
    obtain ⟨⟨b, m⟩, found, same⟩ := Option.map_eq_some_iff.1 h
    obtain ⟨rfl, rfl⟩ := by simpa using same
    simp [ih found]
  | case3 c rest _ _ ih =>
    obtain ⟨⟨b, m⟩, found, same⟩ := Option.map_eq_some_iff.1 h
    obtain ⟨rfl, rfl⟩ := by simpa using same
    simp [ih found]
  | case4 => simp at h

theorem splitDecimal_append (text : List Char) :
    (splitDecimal text).1 ++ (splitDecimal text).2 = text := by
  have whole := List.takeWhile_append_dropWhile (p := Text.isDigit) (l := text)
  unfold splitDecimal
  split
  · rename_i c rest split
    rw [split] at whole
    split
    · simpa [List.takeWhile_append_dropWhile] using whole
    · simpa using whole
  · exact whole

theorem text_of_mark? {c : Char} {token : Token} (h : mark? c = some token) :
    token.text.toList = [c] := by
  unfold mark? at h
  repeat' split at h
  all_goals simp_all [text]
  all_goals subst h; rfl

theorem scanComment_append {rest more : List Char} {token : Token}
    (h : scanComment rest = .ok (token, more)) : token.text.toList ++ more = '/' :: rest := by
  unfold scanComment at h
  split at h
  · split at h
    · rename_i found
      cases h
      simp [text, splitBlock_append found]
    · cases h
  · cases h
    simp [text, List.takeWhile_append_dropWhile]
  · cases h

theorem scanString_append {rest more : List Char} {token : Token}
    (h : scanString rest = .ok (token, more)) : token.text.toList ++ more = '"' :: rest := by
  unfold scanString at h
  split at h
  · rename_i found
    cases h
    simp [text, splitString_append found]
  · cases h

theorem scanNegative_append {rest more : List Char} {token : Token}
    (h : scanNegative rest = .ok (token, more)) : token.text.toList ++ more = '-' :: rest := by
  unfold scanNegative at h
  split at h
  · cases h
  · split at h
    · simp only [Except.ok.injEq, Prod.mk.injEq] at h
      obtain ⟨rfl, rfl⟩ := h
      simp [text, splitDecimal_append]
    · cases h

/-- A token is the beginning of the text it was read from. -/
theorem scan_append {c : Char} {rest more : List Char} {token : Token}
    (h : scan c rest = .ok (token, more)) : token.text.toList ++ more = c :: rest := by
  unfold scan at h
  split at h
  · rename_i found
    cases h
    simp [text_of_mark? found]
  · split at h
    · subst c
      exact scanComment_append h
    · split at h
      · subst c
        exact scanString_append h
      · split at h
        · subst c
          exact scanNegative_append h
        · split at h
          · simp only [Except.ok.injEq, Prod.mk.injEq] at h
            obtain ⟨rfl, rfl⟩ := h
            simp [text, splitDecimal_append]
          · split at h
            · cases h
              simp [text, List.takeWhile_append_dropWhile]
            · cases h

theorem splitDecimal_ne_nil {c : Char} (rest : List Char) (h : Text.isDigit c) :
    (splitDecimal (c :: rest)).1 ≠ [] := by
  unfold splitDecimal
  split
  · split <;> simp [h]
  · simp [h]

/-- A token has at least one character. -/
theorem text_ne_nil_of_scan {c : Char} {rest more : List Char} {token : Token}
    (h : scan c rest = .ok (token, more)) : token.text.toList ≠ [] := by
  unfold scan at h
  split at h
  · rename_i found
    cases h
    simp [text_of_mark? found]
  · split at h
    · unfold scanComment at h
      split at h
      · split at h <;> cases h
        simp [text]
      · cases h
        simp [text]
      · cases h
    · split at h
      · unfold scanString at h
        split at h <;> cases h
        simp [text]
      · split at h
        · unfold scanNegative at h
          split at h
          · cases h
          · split at h <;> cases h
            simp [text]
        · split at h
          · rename_i digit
            simp only [Except.ok.injEq, Prod.mk.injEq] at h
            obtain ⟨rfl, rfl⟩ := h
            simpa [text] using splitDecimal_ne_nil rest digit
          · split at h <;> cases h
            simp [text]

/-- What follows a token is no longer than what followed its first character. -/
theorem length_of_scan {c : Char} {rest more : List Char} {token : Token}
    (h : scan c rest = .ok (token, more)) : more.length ≤ rest.length := by
  have whole := congrArg List.length (scan_append h)
  have some_text := List.length_pos_iff.2 (text_ne_nil_of_scan h)
  simp only [List.length_append, List.length_cons] at whole
  omega

theorem length_splitGap (inComment : Bool) (text : List Char) :
    (splitGap inComment text).2.length ≤ text.length := by
  have whole := congrArg List.length (splitGap_append inComment text)
  simp only [List.length_append] at whole
  omega

/-! ## The whole text -/

/-- A text that is no sequence of tokens, with the place where the tokens stop. -/
structure LexicalError where
  position : Position
  fault : Fault
  deriving DecidableEq, Repr

/-- The tokens of a text that begins at `place`. -/
def tokenizeFrom (place : Position) (text : List Char) : Except LexicalError (List Placed) :=
  let here := place.advance (splitGap false text).1
  match _between : (splitGap false text).2 with
  | [] => .ok []
  | c :: rest =>
    match _step : scan c rest with
    | .error fault => .error ⟨here, fault⟩
    | .ok (token, more) => do
      let others ← tokenizeFrom (here.advance token.text.toList) more
      return ⟨token, here⟩ :: others
termination_by text.length
decreasing_by
  have gap := length_splitGap false text
  have lexeme := length_of_scan _step
  rw [_between, List.length_cons] at gap
  omega

/-- The tokens of a text, or the first place where none can be read. -/
def tokenize (text : String) : Except LexicalError (List Placed) :=
  tokenizeFrom .start text.toList

end InputDocs.Token
