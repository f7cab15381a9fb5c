import InputDocs.Pattern.Property

/-!
# Pattern.Program -- what a pattern matches, with the flags worked out

A `Program` is a pattern in which every character and every set is the set of code points that it
stands for. `Pattern.program?` works the flags out from left to right. It fails for a property
that is not known, and, where Unicode is off, for all that would match a byte that is no character
by itself: characters beyond ASCII, complements, properties and the dot.

Programs are kept small where that does not change what they match: nothing repeated is nothing,
and so is anything repeated no times; what takes up no character is repeated at most once; and
branches of one character each are one set.
-/

namespace InputDocs.Pattern

set_option autoImplicit false

open Unicode (Ranges)

/-! ## Programs -/

/-- A pattern whose flags have been worked out. -/
inductive Program where
  | empty
  | assertion
  | characters (set : Ranges)
  | capture (body : Program)
  | repeated (least : Nat) (most : Option Nat) (body : Program)
  | sequence (parts : List Program)
  | alternatives (branches : List Program)

namespace Program

mutual

/-- Whether the program can match without taking up a character. -/
def matchesEmpty : Program → Bool
  | empty | assertion => true
  | characters _ => false
  | capture body => body.matchesEmpty
  | repeated least _ body => least == 0 || body.matchesEmpty
  | sequence parts => allMatchEmpty parts
  | alternatives branches => someMatchesEmpty branches

/-- Whether each of several programs can match without taking up a character. -/
def allMatchEmpty : List Program → Bool
  | [] => true
  | part :: parts => part.matchesEmpty && allMatchEmpty parts

/-- Whether one of several programs can match without taking up a character. -/
def someMatchesEmpty : List Program → Bool
  | [] => false
  | part :: parts => part.matchesEmpty || someMatchesEmpty parts

end

mutual

/-- Whether the program never takes up a character. -/
def isWidthless : Program → Bool
  | empty | assertion => true
  | characters _ => false
  | capture body | repeated _ _ body => body.isWidthless
  | sequence parts | alternatives parts => areWidthless parts

/-- Whether several programs never take up a character. -/
def areWidthless : List Program → Bool
  | [] => true
  | part :: parts => part.isWidthless && areWidthless parts

end

/-- A repetition. -/
def repeat? (least : Nat) (most : Option Nat) (body : Program) : Program :=
  let (least, most) :=
    if body.isWidthless then (min least 1, some (min (most.getD 1) 1)) else (least, most)
  if most = some 0 then empty
  else if least = 1 ∧ most = some 1 then body
  else repeated least most body

/-- Whether the program is empty. -/
def isEmpty : Program → Bool
  | empty => true
  | _ => false

/-- Parts one after the other. -/
def ofParts (parts : List Program) : Program :=
  match parts.filter fun part => !part.isEmpty with
  | [] => empty
  | [part] => part
  | parts => sequence parts

/-- The set of a program that matches one character. -/
def set? : Program → Option Ranges
  | characters set => some set
  | _ => none

/-- One branch or another. -/
def ofBranches (branches : List Program) : Program :=
  match branches.mapM set? with
  | some sets => characters (Ranges.ofList sets.flatten)
  | none => alternatives branches

end Program

/-! ## Sets -/

/-- The letters of ASCII in either case, for those that the set holds in one. -/
def foldCase (set : Ranges) : Ranges :=
  let codes := (List.range 26).flatMap fun letter =>
    (if set.contains (65 + letter) then [97 + letter] else []) ++
      (if set.contains (97 + letter) then [65 + letter] else [])
  Ranges.ofList (set ++ codes.map fun code => (code, code))

/-- The set with the flag for case worked out. -/
def foldCaseIf (flags : Flags) (set : Ranges) : Ranges :=
  if .ignoreCase ∈ flags then foldCase set else set

/-- The code point of a character in a set; where Unicode is off, only ASCII has one. -/
def Literal.code? (flags : Flags) (character : Literal) : Option Nat :=
  let code := character.char.toNat
  if .unicode ∈ flags ∨ code < 128 then some code else none

/-- The set with one letter; where Unicode is off, its ASCII characters. -/
def Shorthand.members (flags : Flags) (kind : Shorthand) : Ranges :=
  let all : Ranges :=
    match kind with
    | .digit => Unicode.Category.members "Nd"
    | .blank => blanks
    | .word => wordCharacters
  if .unicode ∈ flags then all else all.inter [(0, 127)]

/-- The operation of an operator. -/
def SetOperator.apply : SetOperator → Ranges → Ranges → Ranges
  | inter => Ranges.inter
  | diff => Ranges.diff
  | symmDiff => Ranges.symmDiff

mutual

/-- The code points of a set. -/
def CharSet.members? (flags : Flags) : CharSet → Option Ranges
  | .range first last => do
    return foldCaseIf flags [(← first.code? flags, ← last.code? flags)]
  | .shorthand kind => some (kind.members flags)
  | .property name =>
    if .unicode ∈ flags then name.members?.map (foldCaseIf flags) else none
  | .ascii members => some (foldCaseIf flags members)
  | .complement set =>
    if .unicode ∈ flags then (set.members? flags).map Ranges.complement else none
  | .bracketed set => set.members? flags
  | .union parts => (CharSet.membersOfAll? flags parts).map Ranges.ofList
  | .binary operator left right => do
    return operator.apply (← left.members? flags) (← right.members? flags)

/-- The code points of several sets, one after the other. -/
def CharSet.membersOfAll? (flags : Flags) : List CharSet → Option (List (Nat × Nat))
  | [] => some []
  | part :: parts => do
    return (← part.members? flags) ++ (← CharSet.membersOfAll? flags parts)

end

/-! ## Patterns -/

/-- The set of a character that stands by itself. Where Unicode is off, a character beyond ASCII
may, unless it is written as a byte or case is ignored. -/
def Literal.members? (flags : Flags) (character : Literal) : Option Ranges :=
  let code := character.char.toNat
  if .unicode ∉ flags ∧ 128 ≤ code ∧ (character.isByte ∨ .ignoreCase ∈ flags) then none
  else some (foldCaseIf flags [(code, code)])

/-- The characters that the dot matches. -/
def dot (flags : Flags) : Ranges :=
  if .dotAll ∈ flags then [(0, Ranges.lastCode)]
  else if .crlf ∈ flags then Ranges.complement [(10, 10), (13, 13)]
  else Ranges.complement [(10, 10)]

mutual

/-- The program of a pattern, with the flags that hold after it. -/
def program? (flags : Flags) : Pattern → Option (Program × Flags)
  | .empty => some (.empty, flags)
  | .flags change => some (.empty, change.apply flags)
  | .literal character => do return (.characters (← character.members? flags), flags)
  | .any => if .unicode ∈ flags then some (.characters (dot flags), flags) else none
  | .assertion => some (.assertion, flags)
  | .oneOf set => do return (.characters (← set.members? flags), flags)
  | .group captures change body => do
    let (program, _) ← program? (change.apply flags) body
    return (if captures then .capture program else program, flags)
  | .repeated least most body => do
    let (program, after) ← program? flags body
    return (program.repeat? least most, after)
  | .sequence parts => do
    let (programs, after) ← programs? flags parts
    return (.ofParts programs, after)
  | .alternatives branches => do
    let (programs, after) ← programs? flags branches
    return (.ofBranches programs, after)

/-- The programs of several patterns; flags that one changes hold for the next. -/
def programs? (flags : Flags) : List Pattern → Option (List Program × Flags)
  | [] => some ([], flags)
  | part :: parts => do
    let (program, after) ← program? flags part
    let (programs, last) ← programs? after parts
    return (program :: programs, last)

end

end InputDocs.Pattern
