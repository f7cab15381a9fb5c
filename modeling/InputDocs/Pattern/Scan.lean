import InputDocs.Pattern.Property
import InputDocs.Unicode.Blank

/-!
# Pattern.Scan -- the small parts of a pattern

What takes up the source of a pattern a few characters at a time: white space and comments in
verbose patterns (`skip`), runs of characters (`run`), counts, and what a backslash begins
(`readEscape`). Each reader returns what it read with the rest of the source, or nothing where
the source is in error.

In a verbose pattern white space and comments may stand nearly everywhere, also between the
digits of a number, so most readers are told whether the pattern is verbose.
-/

namespace InputDocs.Pattern

set_option autoImplicit false

open Unicode (isBlank)
open Text (hexDigit? hexValue? isDigit)

/-! ## White space and comments -/

/-- Leave out white space and comments; a comment runs from `#` to the end of the line. -/
def skipBlanks (inComment : Bool) : List Char → List Char
  | [] => []
  | c :: rest =>
    if inComment then skipBlanks (c != '\n') rest
    else if c = '#' then skipBlanks true rest
    else if isBlank c then skipBlanks false rest
    else c :: rest

/-- Leave out what does not count in a verbose pattern. -/
def skip (verbose : Bool) (text : List Char) : List Char :=
  if verbose then skipBlanks false text else text

theorem length_skipBlanks_le (inComment : Bool) (text : List Char) :
    (skipBlanks inComment text).length ≤ text.length := by
  fun_induction skipBlanks inComment text <;> simp_all <;> omega

theorem length_skip_le (verbose : Bool) (text : List Char) :
    (skip verbose text).length ≤ text.length := by
  unfold skip
  split
  · exact length_skipBlanks_le false text
  · exact Nat.le_refl _

/-! ## Runs of characters -/

/-- The characters from here on that satisfy `p`, and the rest. -/
def run (verbose : Bool) (p : Char → Bool) : List Char → List Char × List Char
  | [] => ([], [])
  | c :: rest =>
    if p c then
      let (taken, left) := run verbose p (skip verbose rest)
      (c :: taken, left)
    else ([], c :: rest)
termination_by text => text.length
decreasing_by exact Nat.lt_succ_of_le (length_skip_le verbose rest)

/-- The greatest count of a repetition. -/
def greatestCount : Nat := 0xFFFFFFFF

/-- A count in decimal digits, with white space on either side. -/
def readCount (verbose : Bool) (text : List Char) : Option (Nat × List Char) :=
  let (digits, rest) := run verbose isDigit (text.dropWhile isBlank)
  let count := Text.decimalValue digits
  if digits = [] ∨ greatestCount < count then none
  else some (count, (run verbose isBlank rest).2)

/-- Exactly so many hexadecimal digits. -/
def takeHex (verbose : Bool) : Nat → List Char → Option (List Char × List Char)
  | 0, text => some ([], text)
  | _ + 1, [] => none
  | count + 1, c :: rest =>
    if (hexDigit? c).isSome then do
      let (digits, left) ← takeHex verbose count (skip verbose rest)
      return (c :: digits, left)
    else none

/-- The character with this code point; surrogates and what lies beyond the last one have none. -/
def scalar? (code : Nat) : Option Char :=
  if code.isValidChar then some (Char.ofNat code) else none

/-! ## Escapes -/

/-- Whether a backslash before the character makes it stand for itself: any ASCII character but
letters, digits and the angle brackets. -/
def isEscapable (c : Char) : Bool :=
  c.toNat < 128 && !c.isAlphanum && c != '<' && c != '>'

/-- The rest of a hexadecimal escape with `count` digits: these or any number in braces. -/
def readHex (verbose : Bool) (count : Nat) (text : List Char) : Option (Pattern × List Char) :=
  match skip verbose text with
  | '\x7b' :: rest => do
    let (digits, left) := run verbose (fun c => (hexDigit? c).isSome) (skip verbose rest)
    match left with
    | '\x7d' :: after => return (.literal ⟨← scalar? (← hexValue? digits), false⟩, after)
    | _ => none
  | text => do
    let (digits, left) ← takeHex verbose count text
    return (.literal ⟨← scalar? (← hexValue? digits), count = 2⟩, left)

/-- Split at the first place where `mark` stands. -/
def splitAtMark (mark : List Char) : List Char → Option (List Char × List Char)
  | [] => none
  | c :: rest =>
    if mark.isPrefixOf (c :: rest) then some ([], (c :: rest).drop mark.length)
    else (splitAtMark mark rest).map fun (before, after) => (c :: before, after)

/-- What stands in the braces of a property, and whether it asks for the other values. -/
def readPropertyName (text : List Char) : PropertyName × Bool :=
  match splitAtMark ['!', '='] text with
  | some (name, value) => (.valued name value, true)
  | none =>
    match (splitAtMark [':'] text).or (splitAtMark ['='] text) with
    | some (name, value) => (.valued name value, false)
    | none => (.plain text, false)

/-- The rest of the escape of a property: a name in braces or one letter. -/
def readProperty (verbose negated : Bool) (text : List Char) : Option (Pattern × List Char) :=
  match skip verbose text with
  | [] => none
  | '\x7b' :: rest =>
    match run verbose (· != '\x7d') (skip verbose rest) with
    | (_, []) => none
    | (inside, _ :: after) =>
      let (name, others) := readPropertyName inside
      some (.oneOf ((CharSet.property name).complementIf (negated != others)), after)
  | c :: rest =>
    if c = '\\' then none
    else some (.oneOf ((CharSet.property (.plain [c])).complementIf negated), rest)

/-- The names of the assertions at one side of a word. -/
def wordSides : List String := ["start", "end", "start-half", "end-half"]

/-- The rest of a word boundary: braces with the name of a side belong to it, but braces that
begin with anything but a letter or a hyphen begin a repetition. -/
def readBoundary (verbose : Bool) (text : List Char) : Option (List Char) :=
  let isLetter := fun (c : Char) => c.isAlpha || c == '-'
  match text with
  | '\x7b' :: rest =>
    match skip verbose rest with
    | [] => none
    | c :: inside =>
      if isLetter c then
        match run verbose isLetter (c :: inside) with
        | (side, '\x7d' :: after) =>
          if wordSides.contains (String.ofList side) then some after else none
        | _ => none
      else some text
  | _ => some text

/-- A set with one letter, or what lies outside it. -/
def shorthand (kind : Shorthand) (negated : Bool) : Pattern :=
  .oneOf ((CharSet.shorthand kind).complementIf negated)

/-- The character that a letter after a backslash stands for. -/
def control? : Char → Option Char
  | 'a' => some '\x07'
  | 'f' => some '\x0c'
  | 't' => some '\t'
  | 'n' => some '\n'
  | 'r' => some '\r'
  | 'v' => some '\x0b'
  | _ => none

/-- What stands after a backslash. -/
def readEscape (verbose : Bool) : List Char → Option (Pattern × List Char)
  | [] => none
  | 'x' :: rest => readHex verbose 2 rest
  | 'u' :: rest => readHex verbose 4 rest
  | 'U' :: rest => readHex verbose 8 rest
  | 'p' :: rest => readProperty verbose false rest
  | 'P' :: rest => readProperty verbose true rest
  | 'd' :: rest => some (shorthand .digit false, rest)
  | 'D' :: rest => some (shorthand .digit true, rest)
  | 's' :: rest => some (shorthand .blank false, rest)
  | 'S' :: rest => some (shorthand .blank true, rest)
  | 'w' :: rest => some (shorthand .word false, rest)
  | 'W' :: rest => some (shorthand .word true, rest)
  | 'b' :: rest => (readBoundary verbose rest).map fun after => (.assertion, after)
  | c :: rest =>
    if isEscapable c then some (.literal ⟨c, false⟩, rest)
    else if ['A', 'z', 'B', '<', '>'].contains c then some (.assertion, rest)
    else (control? c).map fun c => (.literal ⟨c, false⟩, rest)

end InputDocs.Pattern
