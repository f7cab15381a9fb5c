import InputDocs.Pattern.Bracket
import InputDocs.Unicode.Alphanumeric

/-!
# Pattern.Read -- patterns from their source

`Pattern.parse` reads a whole source or finds that it is in error. The reader keeps the names of
the groups so far, which must differ, and whether the pattern is verbose here: a flag change
switches that to the end of the group around it, and the flags of a group to the end of the
group. Look-around, back-references and other group forms do not belong to the language.
-/

namespace InputDocs.Pattern

set_option autoImplicit false

open Unicode (isAlphabeticCode isAlphanumeric)

/-- Where the reader is. -/
structure Reader where
  verbose : Bool
  names : List (List Char)
  rest : List Char

/-- The reader with white space and comments left out, where they do not count. -/
def Reader.skip (reader : Reader) : Reader :=
  { reader with rest := Pattern.skip reader.verbose reader.rest }

/-! ## Names and flags -/

/-- Whether a letter or the underscore. -/
def isNameStart (c : Char) : Bool :=
  c == '_' || (if c.toNat < 128 then c.isAlpha else isAlphabeticCode c.toNat)

/-- Whether the character may stand in the name of a group after the first. -/
def isNameRest (c : Char) : Bool :=
  c == '_' || c == '.' || c == '[' || c == ']' || isAlphanumeric c

/-- The name of a group, up to the closing angle bracket. -/
def readName (text : List Char) : Option (List Char × List Char) :=
  match text.span (· != '>') with
  | (first :: more, _ :: after) =>
    if isNameStart first && more.all isNameRest then some (first :: more, after) else none
  | _ => none

/-- The flag of a letter. -/
def Flag.ofLetter? : Char → Option Flag
  | 'i' => some .ignoreCase
  | 'm' => some .multiLine
  | 's' => some .dotAll
  | 'U' => some .swapGreed
  | 'u' => some .unicode
  | 'R' => some .crlf
  | 'x' => some .verbose
  | _ => none

/-- Flag letters up to the colon or the parenthesis, which is returned with them. Letters after
the hyphen switch off. No letter may come twice, and the hyphen comes at most once and before a
letter. -/
def readFlags (change : FlagChange) (switchOff : Bool) :
    List Char → Option (FlagChange × Char × List Char)
  | [] => none
  | c :: rest =>
    if c = ':' ∨ c = ')' then
      if switchOff ∧ change.off = [] then none else some (change, c, rest)
    else if c = '-' then
      if switchOff then none else readFlags change true rest
    else do
      let flag ← Flag.ofLetter? c
      if flag ∈ change.on ∨ flag ∈ change.off then none
      else if switchOff then readFlags { change with off := flag :: change.off } true rest
      else readFlags { change with on := flag :: change.on } false rest

/-- Whether the pattern is verbose after a change. -/
def FlagChange.verboseAfter (change : FlagChange) (verbose : Bool) : Bool :=
  .verbose ∈ change.on || (verbose && .verbose ∉ change.off)

/-! ## Groups -/

/-- What an opening parenthesis begins. -/
inductive Opening where
  | changes (change : FlagChange)
  | group (captures : Bool) (change : FlagChange)

/-- No change of flags. -/
def noChange : FlagChange := ⟨[], []⟩

/-- The rest of the opening of a group with a name. -/
def readNamed (reader : Reader) (text : List Char) : Option (Opening × Reader) := do
  let (name, rest) ← readName text
  if name ∈ reader.names then none
  else some (.group true noChange, { reader with names := name :: reader.names, rest })

/-- What stands after an opening parenthesis, up to the body of the group. -/
def readOpening (reader : Reader) : Option (Opening × Reader) :=
  match reader.skip.rest with
  | '?' :: 'P' :: '<' :: rest => readNamed reader rest
  | '?' :: '<' :: rest => readNamed reader rest
  | '?' :: rest => do
    let (change, mark, after) ← readFlags noChange false rest
    if mark = ':' then some (.group false change, { reader with rest := after })
    else if change = noChange then none
    else some (.changes change, { reader with rest := after })
  | rest => some (.group true noChange, { reader with rest })

/-! ## Repetitions -/

/-- The question mark that makes a repetition take as little as it can. -/
def dropLazyMark : List Char → List Char
  | '?' :: rest => rest
  | rest => rest

/-- The counts of a repetition after the opening brace. -/
def readCounts (verbose : Bool) (text : List Char) :
    Option ((Nat × Option Nat) × List Char) := do
  let (least, rest) ← readCount verbose (skip verbose text)
  match rest with
  | '\x7d' :: after => return ((least, some least), skip verbose after)
  | ',' :: rest =>
    match skip verbose rest with
    | '\x7d' :: after => return ((least, none), skip verbose after)
    | rest => do
      let (most, rest) ← readCount verbose rest
      match rest with
      | '\x7d' :: after =>
        if least ≤ most then return ((least, some most), skip verbose after) else none
      | _ => none
  | _ => none

/-- The repetition at the beginning of a text, if one stands there: its counts with the text
after it, or an error. -/
def readRepetition (verbose : Bool) :
    List Char → Option (Option ((Nat × Option Nat) × List Char))
  | '?' :: rest => some (some ((0, some 1), rest))
  | '*' :: rest => some (some ((0, none), rest))
  | '+' :: rest => some (some ((1, none), rest))
  | '\x7b' :: rest => some (readCounts verbose rest)
  | _ => none

/-! ## Patterns -/

/-- What has been read of a group or of the whole source, in reverse. -/
structure Progress where
  branches : List Pattern
  parts : List Pattern

namespace Progress

/-- One part more. -/
def push (progress : Progress) (part : Pattern) : Progress :=
  { progress with parts := part :: progress.parts }

/-- The branch read so far and those before it. -/
def closed (progress : Progress) : List Pattern :=
  .ofParts progress.parts.reverse :: progress.branches

/-- The pattern read so far. -/
def pattern (progress : Progress) : Pattern := .ofBranches progress.closed.reverse

/-- The last part repeated; there must be one that can be. -/
def repeatLast (progress : Progress) (least : Nat) (most : Option Nat) : Option Progress :=
  match progress.parts with
  | last :: before =>
    if last.isRepeatable then some { progress with parts := .repeated least most last :: before }
    else none
  | [] => none

end Progress

/-- One character, assertion or set. -/
def readSimple (verbose : Bool) : List Char → Option (Pattern × List Char)
  | [] => none
  | '\\' :: rest => readEscape verbose rest
  | '[' :: rest => (readSet verbose rest).map fun (set, after) => (.oneOf set, after)
  | '.' :: rest => some (.any, rest)
  | '^' :: rest | '$' :: rest => some (.assertion, rest)
  | c :: rest => some (.literal ⟨c, false⟩, rest)

/-- Read up to the closing parenthesis of the group or the end of the source, which stays. -/
def readBody : Nat → Reader → Progress → Option (Pattern × Reader)
  | 0, _, _ => none
  | fuel + 1, reader, progress =>
    let reader := reader.skip
    match reader.rest with
    | [] | ')' :: _ => some (progress.pattern, reader)
    | '|' :: rest => readBody fuel { reader with rest } ⟨progress.closed, []⟩
    | '(' :: rest => do
      match ← readOpening { reader with rest } with
      | (.changes change, after) =>
        readBody fuel { after with verbose := change.verboseAfter after.verbose }
          (progress.push (.flags change))
      | (.group captures change, inside) => do
        let (body, after) ← readBody fuel
          { inside with verbose := change.verboseAfter inside.verbose } ⟨[], []⟩
        match after.rest with
        | ')' :: rest =>
          readBody fuel { after with verbose := reader.verbose, rest }
            (progress.push (.group captures change body))
        | _ => none
    | text =>
      match readRepetition reader.verbose text with
      | some counts => do
        let ((least, most), rest) ← counts
        readBody fuel { reader with rest := dropLazyMark rest }
          (← progress.repeatLast least most)
      | none => do
        let (part, rest) ← readSimple reader.verbose text
        readBody fuel { reader with rest } (progress.push part)

/-- Read a whole source as a pattern. Each step takes up at least one character. -/
def parse (source : List Char) : Option Pattern :=
  match readBody (source.length + 1) ⟨false, [], source⟩ ⟨[], []⟩ with
  | some (pattern, ⟨_, _, []⟩) => some pattern
  | _ => none

end InputDocs.Pattern
