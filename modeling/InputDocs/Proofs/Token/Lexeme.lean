import InputDocs.Token.Scan
import Mathlib.Data.List.TakeWhile

/-!
# Proofs.Token.Lexeme -- what the scanner takes as a token

`IsLexeme` says which texts stand for a token, class by class and without the scanner: a word is a
letter or underscore with letters, digits and underscores after it, a string ends at its first
quote that no backslash takes with it, and so on. `Stops` says what may follow a token so that it
ends where it does: a word, a number and a line comment go on as long as they can, and every other
token shows its own end.

The two together are all there is to know about a scan (`scan_eq_ok_iff`): a token is scanned
exactly if its text stands at the beginning, is a lexeme of its class, and stops there. Each
class has its own law first, for the function that splits it off.
-/

namespace InputDocs.Token

set_option autoImplicit false

/-! ## The classes -/

/-- A letter or underscore, then letters, digits and underscores. -/
def IsWord (text : List Char) : Prop :=
  ∃ first rest, text = first :: rest ∧ isWordStart first = true ∧
    ∀ c ∈ rest, isWordPart c = true

theorem isWordPart_of_isWord {text : List Char} (word : IsWord text) :
    ∀ c ∈ text, isWordPart c = true := by
  obtain ⟨first, rest, rfl, starts, goesOn⟩ := word
  refine List.forall_mem_cons.2 ⟨?_, goesOn⟩
  rcases Bool.or_eq_true_iff.1 starts with letter | underscore
  · simp [isWordPart, Char.isAlphanum, letter]
  · exact Bool.or_eq_true_iff.2 (.inr underscore)

/-- Digits, at least one. -/
def IsDigits (text : List Char) : Prop :=
  text ≠ [] ∧ ∀ c ∈ text, Text.isDigit c = true

/-- Digits, with or without a point and more digits. -/
inductive IsDecimal : List Char → Prop
  | whole {digits : List Char} (each : IsDigits digits) : IsDecimal digits
  | fraction {digits decimals : List Char} (each : IsDigits digits) (after : IsDigits decimals) :
      IsDecimal (digits ++ '.' :: decimals)

theorem IsDecimal.exists_digit {text : List Char} (decimal : IsDecimal text) :
    ∃ c rest, text = c :: rest ∧ Text.isDigit c = true := by
  cases decimal with
  | whole each =>
      obtain ⟨c, rest, rfl⟩ := List.exists_cons_of_ne_nil each.1
      exact ⟨c, rest, rfl, each.2 c List.mem_cons_self⟩
  | fraction each =>
      obtain ⟨c, rest, rfl⟩ := List.exists_cons_of_ne_nil each.1
      exact ⟨c, _, rfl, each.2 c List.mem_cons_self⟩

/-- A decimal, with or without a minus before it. -/
def IsNumber (text : List Char) : Prop :=
  IsDecimal text ∨ ∃ digits, text = '-' :: digits ∧ IsDecimal digits

/-- What stands after the opening quote of a string: its first free quote is the last character. -/
inductive ClosesString : List Char → Prop
  | quote : ClosesString ['"']
  | escape (c : Char) {body : List Char} (closes : ClosesString body) :
      ClosesString ('\\' :: c :: body)
  | plain {c : Char} {body : List Char} (free : c ≠ '"') (other : c ≠ '\\')
      (closes : ClosesString body) : ClosesString (c :: body)

/-- What stands after the opening of a block comment: its first `*/` is its end. -/
inductive ClosesBlock : List Char → Prop
  | close : ClosesBlock ['*', '/']
  | plain {c : Char} {body : List Char} (inside : ¬ ['*', '/'] <+: c :: body)
      (closes : ClosesBlock body) : ClosesBlock (c :: body)

/-- The text of the token is of the token's class. -/
def IsLexeme : Token → Prop
  | docBlock text => ∃ body, text.toList = '/' :: '*' :: '*' :: body ∧ ClosesBlock body
  | docLine text => ∃ line, text.toList = '/' :: '/' :: '/' :: line ∧ ∀ c ∈ line, c ≠ '\n'
  | quoted text => ∃ body, text.toList = '"' :: body ∧ ClosesString body
  | number text => IsNumber text.toList
  | word name => IsWord name.toList
  | openParen | closeParen | openBrace | closeBrace | equals | comma => True

theorem IsLexeme.text_ne_nil {token : Token} (lexeme : token.IsLexeme) :
    token.text.toList ≠ [] := by
  cases token with
  | docBlock text | docLine text | quoted text =>
      obtain ⟨body, spelled, _⟩ := lexeme
      simp [Token.text, spelled]
  | number text =>
      rcases lexeme with decimal | ⟨digits, spelled, _⟩
      · obtain ⟨c, rest, spelled, _⟩ := decimal.exists_digit
        simp [Token.text, spelled]
      · simp [Token.text, spelled]
  | word name =>
      obtain ⟨first, rest, spelled, _⟩ := lexeme
      simp [Token.text, spelled]
  | _ => exact List.cons_ne_nil _ _

/-- The digits of a number do not go on: no further digit, and no fraction if there is none. -/
def DecimalStops (digits more : List Char) : Prop :=
  (∀ c ∈ more.head?, Text.isDigit c = false) ∧
    ('.' ∈ digits ∨ ∀ c rest, more = '.' :: c :: rest → Text.isDigit c = false)

/-- A token of this text ends where `more` begins. -/
def Stops (token : Token) (more : List Char) : Prop :=
  match token with
  | docLine _ => ∀ c ∈ more.head?, c = '\n'
  | number text => DecimalStops text.toList more
  | word _ => ∀ c ∈ more.head?, isWordPart c = false
  | _ => True

theorem ClosesBlock.ne_nil {body : List Char} (closes : ClosesBlock body) : body ≠ [] := by
  cases closes with
  | close => exact List.cons_ne_nil _ _
  | plain => exact List.cons_ne_nil _ _

/-! ## Longest runs -/

section Runs

variable {p : Char → Bool} {run more text : List Char}

theorem takeWhile_run (each : ∀ c ∈ run, p c = true) (stops : ∀ c ∈ more.head?, p c = false) :
    (run ++ more).takeWhile p = run := by
  rw [List.takeWhile_append_of_pos each]
  cases more with
  | nil => simp
  | cons c rest =>
      have stopped := stops c (by simp)
      simp [stopped]

theorem dropWhile_run (each : ∀ c ∈ run, p c = true) (stops : ∀ c ∈ more.head?, p c = false) :
    (run ++ more).dropWhile p = more := by
  rw [List.dropWhile_append_of_pos each]
  cases more with
  | nil => rfl
  | cons c rest =>
      have stopped := stops c (by simp)
      simp [stopped]

theorem head?_dropWhile_run {c : Char} (head : c ∈ (text.dropWhile p).head?) : p c = false := by
  have stopped := List.head?_dropWhile_not p text
  rw [Option.mem_def.1 head] at stopped
  exact stopped

end Runs

/-! ## Strings and blocks -/

/-- A string ends at its first free quote. -/
theorem splitString_eq_some_iff {text body more : List Char} :
    splitString text = some (body, more) ↔ body ++ more = text ∧ ClosesString body := by
  constructor
  · intro split
    refine ⟨splitString_append split, ?_⟩
    fun_induction splitString text generalizing body more with
    | case1 rest =>
        obtain ⟨rfl, rfl⟩ := by simpa using split
        exact .quote
    | case2 c rest ih =>
        obtain ⟨⟨inner, after⟩, found, same⟩ := Option.map_eq_some_iff.1 split
        obtain ⟨rfl, rfl⟩ := by simpa using same
        exact .escape c (ih found)
    | case3 c rest free other ih =>
        obtain ⟨⟨inner, after⟩, found, same⟩ := Option.map_eq_some_iff.1 split
        obtain ⟨rfl, rfl⟩ := by simpa using same
        refine .plain free ?_ (ih found)
        rintro rfl
        -- A backslash before the rest of a closed string has a character to take.
        cases rest with
        | nil => simp [splitString] at found
        | cons next rest => exact other next rest rfl rfl
    | case4 => simp at split
  · rintro ⟨rfl, closes⟩
    induction closes with
    | quote => simp [splitString]
    | escape c closes ih => simp [splitString, ih]
    | plain free other closes ih =>
        rw [List.cons_append, splitString, ih, Option.map_some]
        · exact free
        · exact fun next rest escaped => absurd escaped other

/-- A block comment ends at the first `*/` after its opening. -/
theorem splitBlock_eq_some_iff {text body more : List Char} :
    splitBlock text = some (body, more) ↔ body ++ more = text ∧ ClosesBlock body := by
  constructor
  · intro split
    refine ⟨splitBlock_append split, ?_⟩
    fun_induction splitBlock text generalizing body more with
    | case1 rest =>
        obtain ⟨rfl, rfl⟩ := by simpa using split
        exact .close
    | case2 c rest inside ih =>
        obtain ⟨⟨inner, after⟩, found, same⟩ := Option.map_eq_some_iff.1 split
        obtain ⟨rfl, rfl⟩ := by simpa using same
        refine .plain ?_ (ih found)
        rintro ⟨tail, opens⟩
        have whole := splitBlock_append found
        obtain ⟨rfl, rfl⟩ := by simpa using opens
        exact inside _ rfl whole.symm
    | case3 => simp at split
  · rintro ⟨rfl, closes⟩
    induction closes with
    | close => simp [splitBlock]
    | @plain c body inside closes ih =>
        rw [List.cons_append, splitBlock, ih, Option.map_some]
        rintro rest rfl slash
        obtain ⟨next, after, rfl⟩ := List.exists_cons_of_ne_nil closes.ne_nil
        obtain ⟨rfl, rfl⟩ := by simpa using slash
        exact inside ⟨after, rfl⟩

/-! ## Numbers -/

theorem point_notMem {digits : List Char} (each : ∀ c ∈ digits, Text.isDigit c = true) :
    '.' ∉ digits := by
  intro member
  exact absurd (each '.' member) (by decide)

theorem point_stops (rest : List Char) :
    ∀ c ∈ ('.' :: rest).head?, Text.isDigit c = false := by
  intro c head
  rw [List.head?_cons, Option.mem_some_iff] at head
  rw [← head]
  decide

/-- The digits that are split off are all there are. -/
theorem splitDecimal_isDecimal {c : Char} (rest : List Char) (digit : Text.isDigit c = true) :
    IsDecimal (splitDecimal (c :: rest)).1 ∧
      DecimalStops (splitDecimal (c :: rest)).1 (splitDecimal (c :: rest)).2 := by
  have wholeDigits : IsDigits ((c :: rest).takeWhile Text.isDigit) :=
    ⟨by simp [digit], fun _ member => List.mem_takeWhile_imp member⟩
  unfold splitDecimal
  split
  · rename_i next others point
    split
    · rename_i nextDigit
      have decimals : IsDigits (next :: others.takeWhile Text.isDigit) := by
        refine ⟨List.cons_ne_nil _ _, List.forall_mem_cons.2 ⟨nextDigit, ?_⟩⟩
        exact fun _ member => List.mem_takeWhile_imp member
      refine ⟨.fraction wholeDigits decimals, fun _ => head?_dropWhile_run, .inl (by simp)⟩
    · rename_i nextOther
      refine ⟨.whole wholeDigits, point_stops _, .inr ?_⟩
      · rintro _ _ ⟨rfl, rfl⟩
        exact Bool.not_eq_true _ ▸ nextOther
  · rename_i noPoint
    refine ⟨.whole wholeDigits, fun _ => head?_dropWhile_run, .inr ?_⟩
    intro next others point
    by_contra nextDigit
    exact noPoint next others point

/-- A decimal that stops is split off whole. -/
theorem splitDecimal_of_isDecimal {digits more : List Char} (decimal : IsDecimal digits)
    (stops : DecimalStops digits more) : splitDecimal (digits ++ more) = (digits, more) := by
  obtain ⟨noDigit, noFraction⟩ := stops
  cases decimal with
  | whole each =>
      have noPoint := noFraction.resolve_left (point_notMem each.2)
      unfold splitDecimal
      rw [takeWhile_run each.2 noDigit, dropWhile_run each.2 noDigit]
      split
      · rename_i next others
        rw [if_neg (by simp [noPoint next others rfl])]
      · rfl
  | @fraction digits decimals each after =>
      obtain ⟨next, others, rfl⟩ := List.exists_cons_of_ne_nil after.1
      obtain ⟨nextDigit, othersDigits⟩ := List.forall_mem_cons.1 after.2
      unfold splitDecimal
      rw [List.append_assoc, List.cons_append, takeWhile_run each.2 (point_stops _),
        dropWhile_run each.2 (point_stops _)]
      simp only [List.cons_append]
      rw [if_pos nextDigit, takeWhile_run othersDigits noDigit, dropWhile_run othersDigits noDigit]

/-! ## What the first character decides -/

theorem nine_lt_of_isAlpha {c : Char} (letter : c.isAlpha = true) : '9'.toNat < c.toNat := by
  rcases Bool.or_eq_true_iff.1 letter with upper | lower
  · have bound : 'A'.toNat ≤ c.toNat := UInt32.le_iff_toNat_le.1 (of_decide_eq_true upper).1
    exact Nat.lt_of_lt_of_le (by decide) bound
  · have bound : 'a'.toNat ≤ c.toNat :=
      UInt32.le_iff_toNat_le.1 (of_decide_eq_true (Bool.and_eq_true_iff.1 lower).1)
    exact Nat.lt_of_lt_of_le (by decide) bound

theorem isDigit_of_isWordStart {c : Char} (starts : isWordStart c = true) :
    Text.isDigit c = false := by
  rcases Bool.or_eq_true_iff.1 starts with letter | underscore
  · rw [Text.isDigit, Bool.and_eq_false_iff]
    refine .inr (decide_eq_false fun high => ?_)
    have bound : c.toNat ≤ '9'.toNat := UInt32.le_iff_toNat_le.1 high
    exact absurd (nine_lt_of_isAlpha letter) (Nat.not_lt_of_le bound)
  · rw [of_decide_eq_true underscore]
    rfl

/-- The characters that alone decide how a token is read. -/
def marks : List Char := ['(', ')', '\x7b', '\x7d', '=', ',', '/', '"', '-']

theorem scan_of_notMem_marks {c : Char} (other : c ∉ marks) (rest : List Char) :
    scan c rest =
      if Text.isDigit c then
        .ok (number (String.ofList (splitDecimal (c :: rest)).1), (splitDecimal (c :: rest)).2)
      else if isWordStart c then
        .ok (word (String.ofList (c :: rest.takeWhile isWordPart)), rest.dropWhile isWordPart)
      else .error (.strange c) := by
  simp only [marks, List.mem_cons, List.not_mem_nil, or_false, not_or] at other
  simp [scan, mark?, other]

theorem scan_digit {c : Char} (digit : Text.isDigit c = true) (rest : List Char) :
    scan c rest = .ok (number (String.ofList (splitDecimal (c :: rest)).1),
      (splitDecimal (c :: rest)).2) := by
  have other : c ∉ marks := by
    intro member
    have noDigits : marks.all (fun mark => !Text.isDigit mark) = true := rfl
    have noDigit := List.all_eq_true.1 noDigits c member
    simp [digit] at noDigit
  rw [scan_of_notMem_marks other, if_pos digit]

theorem scan_wordStart {c : Char} (starts : isWordStart c = true) (rest : List Char) :
    scan c rest = .ok (word (String.ofList (c :: rest.takeWhile isWordPart)),
      rest.dropWhile isWordPart) := by
  have other : c ∉ marks := by
    intro member
    have noWords : marks.all (fun mark => !isWordStart mark) = true := rfl
    have noWord := List.all_eq_true.1 noWords c member
    simp [starts] at noWord
  have noDigit : ¬ Text.isDigit c = true := by
    rw [isDigit_of_isWordStart starts]
    exact Bool.false_ne_true
  rw [scan_of_notMem_marks other, if_neg noDigit, if_pos starts]

/-! ## Scans -/

theorem scanComment_isLexeme {rest more : List Char} {token : Token}
    (scanned : scanComment rest = .ok (token, more)) : token.IsLexeme ∧ token.Stops more := by
  unfold scanComment at scanned
  split at scanned
  · split at scanned
    · rename_i inner body after split
      obtain ⟨rfl, rfl⟩ := Prod.mk.inj (Except.ok.inj scanned)
      exact ⟨⟨body, String.toList_ofList, (splitBlock_eq_some_iff.1 split).2⟩, trivial⟩
    · cases scanned
  · rename_i inner
    obtain ⟨rfl, rfl⟩ := Prod.mk.inj (Except.ok.inj scanned)
    refine ⟨⟨inner.takeWhile (· ≠ '\n'), String.toList_ofList, ?_⟩, ?_⟩
    · intro c member
      simpa using List.mem_takeWhile_imp member
    · intro c head
      simpa using head?_dropWhile_run head
  · cases scanned

theorem scanString_isLexeme {rest more : List Char} {token : Token}
    (scanned : scanString rest = .ok (token, more)) : token.IsLexeme ∧ token.Stops more := by
  unfold scanString at scanned
  split at scanned
  · rename_i body after split
    obtain ⟨rfl, rfl⟩ := Prod.mk.inj (Except.ok.inj scanned)
    exact ⟨⟨body, String.toList_ofList, (splitString_eq_some_iff.1 split).2⟩, trivial⟩
  · cases scanned

theorem scanNegative_isLexeme {rest more : List Char} {token : Token}
    (scanned : scanNegative rest = .ok (token, more)) : token.IsLexeme ∧ token.Stops more := by
  cases rest with
  | nil => cases scanned
  | cons c rest =>
      rw [scanNegative] at scanned
      split at scanned
      · rename_i digit
        obtain ⟨rfl, rfl⟩ := Prod.mk.inj (Except.ok.inj scanned)
        obtain ⟨decimal, noDigit, noFraction⟩ := splitDecimal_isDecimal rest digit
        refine ⟨.inr ⟨_, String.toList_ofList, decimal⟩, noDigit, noFraction.imp_left ?_⟩
        intro point
        rw [String.toList_ofList]
        exact List.mem_cons_of_mem _ point
      · cases scanned

theorem isLexeme_of_mark? {c : Char} {token : Token} (found : mark? c = some token)
    (more : List Char) : token.IsLexeme ∧ token.Stops more := by
  unfold mark? at found
  repeat' split at found
  all_goals cases found
  all_goals exact ⟨trivial, trivial⟩

/-- What is scanned is a lexeme of its class, and ends there. -/
theorem scan_isLexeme {c : Char} {rest more : List Char} {token : Token}
    (scanned : scan c rest = .ok (token, more)) : token.IsLexeme ∧ token.Stops more := by
  unfold scan at scanned
  split at scanned
  · rename_i found
    obtain ⟨rfl, rfl⟩ := Prod.mk.inj (Except.ok.inj scanned)
    exact isLexeme_of_mark? found _
  · split at scanned
    · exact scanComment_isLexeme scanned
    · split at scanned
      · exact scanString_isLexeme scanned
      · split at scanned
        · exact scanNegative_isLexeme scanned
        · split at scanned
          · rename_i digit
            obtain ⟨rfl, rfl⟩ := Prod.mk.inj (Except.ok.inj scanned)
            obtain ⟨decimal, stops⟩ := splitDecimal_isDecimal rest digit
            rw [IsLexeme, Stops, String.toList_ofList]
            exact ⟨.inl decimal, stops⟩
          · split at scanned
            · rename_i starts
              obtain ⟨rfl, rfl⟩ := Prod.mk.inj (Except.ok.inj scanned)
              refine ⟨⟨c, _, String.toList_ofList, starts, ?_⟩, fun _ => head?_dropWhile_run⟩
              exact fun _ member => List.mem_takeWhile_imp member
            · cases scanned

theorem eq_ofList {text : String} {chars : List Char} (spelled : text.toList = chars) :
    text = String.ofList chars := by
  rw [← spelled, String.ofList_toList]

theorem scan_number {c : Char} {rest more : List Char} {text : String}
    (written : text.toList ++ more = c :: rest) (lexeme : IsNumber text.toList)
    (stops : DecimalStops text.toList more) : scan c rest = .ok (number text, more) := by
  rcases lexeme with decimal | ⟨digits, spelled, decimal⟩
  · obtain ⟨first, others, spelled, digit⟩ := decimal.exists_digit
    rw [spelled, List.cons_append] at written
    obtain ⟨rfl, rfl⟩ := List.cons.inj written
    have split := splitDecimal_of_isDecimal decimal stops
    rw [spelled, List.cons_append] at split
    rw [scan_digit digit, split, eq_ofList spelled]
  · obtain ⟨first, others, rfl, digit⟩ := decimal.exists_digit
    rw [spelled] at stops
    rw [spelled, List.cons_append] at written
    obtain ⟨rfl, rfl⟩ := List.cons.inj written
    have stopsDigits : DecimalStops (first :: others) more :=
      ⟨stops.1, stops.2.imp_left fun point => by simpa using point⟩
    have split := splitDecimal_of_isDecimal decimal stopsDigits
    rw [List.cons_append] at split
    change scanNegative (first :: (others ++ more)) = _
    rw [scanNegative, if_pos digit, split, eq_ofList spelled]

/-- A lexeme of its class that may end where it does is scanned. -/
theorem scan_of_isLexeme {c : Char} {rest more : List Char} {token : Token}
    (written : token.text.toList ++ more = c :: rest) (lexeme : token.IsLexeme)
    (stops : token.Stops more) : scan c rest = .ok (token, more) := by
  cases token with
  | docBlock text =>
      obtain ⟨body, spelled, closes⟩ := lexeme
      rw [Token.text, spelled, List.cons_append] at written
      obtain ⟨rfl, rfl⟩ := List.cons.inj written
      have split : splitBlock (body ++ more) = some (body, more) :=
        splitBlock_eq_some_iff.2 ⟨rfl, closes⟩
      change scanComment ('*' :: '*' :: (body ++ more)) = _
      rw [scanComment, split, eq_ofList spelled]
  | docLine text =>
      obtain ⟨line, spelled, each⟩ := lexeme
      rw [Token.text, spelled, List.cons_append] at written
      obtain ⟨rfl, rfl⟩ := List.cons.inj written
      have inside : ∀ c ∈ line, decide (c ≠ '\n') = true := by simpa using each
      have outside : ∀ c ∈ more.head?, decide (c ≠ '\n') = false := by simpa [Stops] using stops
      change scanComment ('/' :: '/' :: (line ++ more)) = _
      rw [scanComment, takeWhile_run inside outside, dropWhile_run inside outside,
        eq_ofList spelled]
  | quoted text =>
      obtain ⟨body, spelled, closes⟩ := lexeme
      rw [Token.text, spelled, List.cons_append] at written
      obtain ⟨rfl, rfl⟩ := List.cons.inj written
      have split : splitString (body ++ more) = some (body, more) :=
        splitString_eq_some_iff.2 ⟨rfl, closes⟩
      change scanString (body ++ more) = _
      rw [scanString, split, eq_ofList spelled]
  | number text => exact scan_number written lexeme stops
  | word name =>
      obtain ⟨first, others, spelled, starts, each⟩ := lexeme
      rw [Token.text, spelled, List.cons_append] at written
      obtain ⟨rfl, rfl⟩ := List.cons.inj written
      rw [scan_wordStart starts, takeWhile_run each stops, dropWhile_run each stops,
        eq_ofList spelled]
  | _ =>
      obtain ⟨rfl, rfl⟩ := List.cons.inj written
      rfl

/-- **A token is scanned exactly if its text stands at the beginning, is a lexeme of its class and
ends where it may.** -/
theorem scan_eq_ok_iff {c : Char} {rest more : List Char} {token : Token} :
    scan c rest = .ok (token, more) ↔
      token.text.toList ++ more = c :: rest ∧ token.IsLexeme ∧ token.Stops more := by
  constructor
  · intro scanned
    exact ⟨scan_append scanned, scan_isLexeme scanned⟩
  · rintro ⟨written, lexeme, stops⟩
    exact scan_of_isLexeme written lexeme stops

end InputDocs.Token
