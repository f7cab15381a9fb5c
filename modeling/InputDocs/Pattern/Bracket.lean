import InputDocs.Pattern.Scan

/-!
# Pattern.Bracket -- sets of characters in brackets

The inside of brackets is a list of characters, ranges, escapes, named ASCII sets and further
brackets. The operators `&&`, `--` and `~~` stand between such lists and group from the left.
A hyphen is a character of its own at the beginning of the brackets and before their end, and a
closing bracket is one where it comes first (`readSet`).
-/

namespace InputDocs.Pattern

set_option autoImplicit false

open Unicode (Ranges)

/-! ## Named ASCII sets -/

/-- The sets with a name between brackets and colons. -/
def asciiSets : List (String × Ranges) :=
  [ ("alnum", [(48, 57), (65, 90), (97, 122)]), ("alpha", [(65, 90), (97, 122)]),
    ("ascii", [(0, 127)]), ("blank", [(9, 9), (32, 32)]), ("cntrl", [(0, 31), (127, 127)]),
    ("digit", [(48, 57)]), ("graph", [(33, 126)]), ("lower", [(97, 122)]),
    ("print", [(32, 126)]), ("punct", [(33, 47), (58, 64), (91, 96), (123, 126)]),
    ("space", [(9, 13), (32, 32)]), ("upper", [(65, 90)]),
    ("word", [(48, 57), (65, 90), (95, 95), (97, 122)]),
    ("xdigit", [(48, 57), (65, 70), (97, 102)]) ]

/-- A named ASCII set after its opening bracket. What does not have this form is no error, but
the inside of a further pair of brackets. -/
def readAsciiSet : List Char → Option (CharSet × List Char)
  | ':' :: rest =>
    let (negated, rest) :=
      match rest with
      | '^' :: rest => (true, rest)
      | _ => (false, rest)
    match rest.span (· != ':') with
    | (name, ':' :: ']' :: after) =>
      (asciiSets.find? fun entry => entry.1 == String.ofList name).map fun entry =>
        ((CharSet.ascii entry.2).complementIf negated, after)
    | _ => none
  | _ => none

/-! ## Characters and ranges -/

/-- One character or escape. -/
def readMember (verbose : Bool) : List Char → Option (Pattern × List Char)
  | [] => none
  | '\\' :: rest => readEscape verbose rest
  | c :: rest => some (.literal ⟨c, false⟩, rest)

/-- The character after the next one, white space left out: where a hyphen is next, it tells
whether the hyphen makes a range. One comment mark is passed over as well. -/
def peekAfter (verbose : Bool) : List Char → Option Char
  | [] => none
  | _ :: rest =>
    if verbose then
      match rest.dropWhile Unicode.isBlank with
      | '#' :: more => (more.dropWhile Unicode.isBlank).head?
      | more => more.head?
    else rest.head?

/-- A character, an escape or a range. The ends of a range are characters in order, and an
assertion is not a member of a set. -/
def readRange (verbose : Bool) (text : List Char) : Option (CharSet × List Char) := do
  let (first, rest) ← readMember verbose text
  let rest := skip verbose rest
  let isRange := rest.head? = some '-' ∧ peekAfter verbose rest ≠ some ']' ∧
    peekAfter verbose rest ≠ some '-'
  match first, rest with
  | _, [] => none
  | .literal start, _ :: more =>
    if isRange then
      match ← readMember verbose (skip verbose more) with
      | (.literal stop, after) =>
        if start.char ≤ stop.char then some (.range start stop, after) else none
      | _ => none
    else some (.range start start, rest)
  | .oneOf set, _ => if isRange then none else some (set, rest)
  | _, _ => none

/-! ## Brackets -/

/-- The operator at the beginning of a text. -/
def readOperator : List Char → Option (SetOperator × List Char)
  | '&' :: '&' :: rest => some (.inter, rest)
  | '-' :: '-' :: rest => some (.diff, rest)
  | '~' :: '~' :: rest => some (.symmDiff, rest)
  | _ => none

/-- What has been read of the inside of brackets. -/
structure Inside where
  /-- What stands before the last operator, with that operator. -/
  left : Option (CharSet × SetOperator)
  /-- The parts after it, in reverse. -/
  parts : List CharSet

namespace Inside

/-- The set read so far. -/
def set (inside : Inside) : CharSet :=
  match inside.left with
  | none => .ofParts inside.parts.reverse
  | some (left, operator) => .binary operator left (.ofParts inside.parts.reverse)

/-- One part more. -/
def push (inside : Inside) (part : CharSet) : Inside :=
  { inside with parts := part :: inside.parts }

/-- An operator after what has been read. -/
def apply (inside : Inside) (operator : SetOperator) : Inside :=
  ⟨some (inside.set, operator), []⟩

end Inside

/-- The beginning of brackets: whether the set is what lies outside, and the hyphens or the
closing bracket that stand for themselves. -/
def openBracket (verbose : Bool) (text : List Char) : Bool × Inside × List Char :=
  let character := fun (c : Char) => CharSet.range ⟨c, false⟩ ⟨c, false⟩
  let (negated, text) :=
    match skip verbose text with
    | '^' :: rest => (true, skip verbose rest)
    | text => (false, text)
  match run verbose (· == '-') text with
  | ([], ']' :: rest) => (negated, ⟨none, [character ']']⟩, rest)
  | (hyphens, rest) => (negated, ⟨none, hyphens.map character⟩, rest)

mutual

/-- A set after its opening bracket. -/
def readBracket (verbose : Bool) : Nat → List Char → Option (CharSet × List Char)
  | 0, _ => none
  | fuel + 1, text => do
    let (negated, inside, rest) := openBracket verbose text
    let (set, after) ← readInside verbose fuel inside rest
    return (.bracketed (set.complementIf negated), after)

/-- The inside of brackets, up to their end. -/
def readInside (verbose : Bool) : Nat → Inside → List Char → Option (CharSet × List Char)
  | 0, _, _ => none
  | fuel + 1, inside, text =>
    match skip verbose text with
    | [] => none
    | ']' :: rest => some (inside.set, rest)
    | '[' :: rest => do
      let (part, after) ← readAsciiSet rest <|> readBracket verbose fuel rest
      readInside verbose fuel (inside.push part) after
    | text =>
      match readOperator text with
      | some (operator, rest) => readInside verbose fuel (inside.apply operator) rest
      | none => do
        let (part, after) ← readRange verbose text
        readInside verbose fuel (inside.push part) after

end

/-- A set after its opening bracket. A pair of brackets takes two steps, and every other step at
least one character. -/
def readSet (verbose : Bool) (text : List Char) : Option (CharSet × List Char) :=
  readBracket verbose (2 * text.length + 2) text

end InputDocs.Pattern
