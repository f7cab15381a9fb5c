import InputDocs.Unicode.Ranges

/-!
# Pattern -- regular expressions as they are written

A `Pattern` is what the source of a regular expression says: characters, assertions, sets of
characters, groups, repetitions, sequences and alternatives. A group may change the flags for its
body, and a flag change that stands alone holds to the end of the group around it. Assertions are
not told apart, because none of them takes up a character and each may stand wherever another
may; for the same reason a repetition does not say whether it is greedy.

`Pattern.nesting` counts how deep the parts lie in each other. A sequence or a set with one part
is that part, so only two parts or more make a level (`Pattern.ofParts`, `CharSet.ofParts`).
-/

namespace InputDocs

set_option autoImplicit false

namespace Pattern

open Unicode (Ranges)

/-! ## Characters and sets -/

/-- A character as a pattern writes it. -/
structure Literal where
  char : Char
  /-- Written with two hexadecimal digits, which stand for a byte where Unicode is off. -/
  isByte : Bool
  deriving DecidableEq, Repr

/-- The sets that have one letter. -/
inductive Shorthand where
  | digit
  | blank
  | word
  deriving DecidableEq, Repr

/-- How a property of characters is asked for. -/
inductive PropertyName where
  | plain (name : List Char)
  | valued (name value : List Char)
  deriving DecidableEq, Repr

/-- The operators between the parts of a bracketed set. -/
inductive SetOperator where
  | inter
  | diff
  | symmDiff
  deriving DecidableEq, Repr

/-- A set of characters. -/
inductive CharSet where
  | range (first last : Literal)
  | shorthand (kind : Shorthand)
  | property (name : PropertyName)
  /-- A set with a name in brackets and colons, which holds ASCII characters only. -/
  | ascii (members : Ranges)
  | complement (set : CharSet)
  | bracketed (set : CharSet)
  | union (parts : List CharSet)
  | binary (operator : SetOperator) (left right : CharSet)

/-- The union of parts; of one part, that part. -/
def CharSet.ofParts : List CharSet → CharSet
  | [part] => part
  | parts => .union parts

/-- The set or what lies outside it. -/
def CharSet.complementIf (negated : Bool) (set : CharSet) : CharSet :=
  if negated then .complement set else set

/-! ## Flags -/

/-- What a flag letter switches. -/
inductive Flag where
  | ignoreCase
  | multiLine
  | dotAll
  | swapGreed
  | unicode
  | crlf
  /-- White space and comments between the parts are left out. -/
  | verbose
  deriving DecidableEq, Repr

/-- The flags that are on. -/
abbrev Flags := List Flag

/-- The flags that a group switches on and off. -/
structure FlagChange where
  on : List Flag
  off : List Flag
  deriving DecidableEq, Repr

/-- The flags after a change. -/
def FlagChange.apply (change : FlagChange) (flags : Flags) : Flags :=
  change.on ++ flags.filter (· ∉ change.off)

end Pattern

/-! ## Patterns -/

open Pattern in
/-- A regular expression. -/
inductive Pattern where
  | empty
  | flags (change : FlagChange)
  | literal (character : Literal)
  /-- Any character, but for the ends of lines. -/
  | any
  | assertion
  | oneOf (members : CharSet)
  | group (captures : Bool) (change : FlagChange) (body : Pattern)
  /-- At least so many times, and at most so many. -/
  | repeated (least : Nat) (most : Option Nat) (body : Pattern)
  | sequence (parts : List Pattern)
  | alternatives (branches : List Pattern)

namespace Pattern

/-- Parts one after the other; of one part, that part. -/
def ofParts : List Pattern → Pattern
  | [] => empty
  | [part] => part
  | parts => sequence parts

/-- One branch or another; of one branch, that branch. -/
def ofBranches : List Pattern → Pattern
  | [branch] => branch
  | branches => alternatives branches

/-- Whether a repetition may stand after the pattern. -/
def isRepeatable : Pattern → Bool
  | empty | flags _ => false
  | _ => true

/-! ## Nesting -/

mutual

/-- How many sets lie in each other. -/
def CharSet.nesting : CharSet → Nat
  | .range _ _ | .shorthand _ | .property _ | .ascii _ | .union [] => 0
  | .complement set => set.nesting
  | .bracketed set => set.nesting + 1
  | .union (part :: parts) => max part.nesting (CharSet.nestingAll parts) + 1
  | .binary _ left right => max left.nesting right.nesting + 1

/-- The deepest of several sets. -/
def CharSet.nestingAll : List CharSet → Nat
  | [] => 0
  | part :: parts => max part.nesting (CharSet.nestingAll parts)

end

mutual

/-- How many parts lie in each other. -/
def nesting : Pattern → Nat
  | empty | flags _ | literal _ | any | assertion => 0
  | oneOf members => members.nesting
  | group _ _ body | repeated _ _ body => body.nesting + 1
  | sequence parts | alternatives parts => nestingAll parts + 1

/-- The deepest of several patterns. -/
def nestingAll : List Pattern → Nat
  | [] => 0
  | part :: parts => max part.nesting (nestingAll parts)

end

end Pattern

end InputDocs
