import InputDocs.Pattern.Program
import Std.Data.HashSet

/-!
# Pattern.Size -- how large the automaton of a program is

A program becomes an automaton over the bytes of UTF-8. Its size is counted in bytes of memory:
`stateSize` for a state, and more for a state with several ways out of it. A repetition that is
counted holds its body once for each count, so counts in counts multiply; that is what makes the
limit necessary (`isWithinLimit`).

There are two automata. The one that reads forward has states for the groups that capture and
shares the common ends of the byte sequences of a set; the one that reads backward has no such
states and shares their common beginnings.
-/

namespace InputDocs.Pattern

set_option autoImplicit false

open Unicode (Ranges)

/-! ## Byte sequences of a set -/

/-- Intervals of bytes, one after the other. -/
abbrev ByteSequence := List (Nat × Nat)

/-- The sequences that encode an interval of code points with `rest` bytes after the first, whose
marking bits are `mark`. All encodings in the interval have this length. -/
def byteSequences : Nat → Nat → Nat → Nat → List ByteSequence
  | 0, mark, first, last => [[(mark + first, mark + last)]]
  | rest + 1, mark, first, last =>
    let block := Nat.pow 64 (rest + 1)
    let low := first / block
    let high := last / block
    let under := fun (lead start stop : Nat) =>
      (byteSequences rest 0x80 start stop).map ((mark + lead, mark + lead) :: ·)
    if low = high then under low (first % block) (last % block)
    else
      let before := if first % block = 0 then [] else under low (first % block) (block - 1)
      let after := if last % block = block - 1 then [] else under high 0 (last % block)
      let start := if first % block = 0 then low else low + 1
      let stop := if last % block = block - 1 then high else high - 1
      let whole := (mark + start, mark + stop) :: List.replicate (rest + 1) (0x80, 0xBF)
      before ++ (if start ≤ stop then [whole] else []) ++ after

/-- The intervals of code points whose encodings have one length: the number of bytes after the
first, the marking bits of the first, and the interval. Surrogates have no encoding. -/
def encodings : List (Nat × Nat × Nat × Nat) :=
  [ (0, 0, 0, 0x7F), (1, 0xC0, 0x80, 0x7FF), (2, 0xE0, 0x800, 0xD7FF), (2, 0xE0, 0xE000, 0xFFFF),
    (3, 0xF0, 0x10000, 0x10FFFF) ]

/-- The sequences that encode a set, in order. -/
def sequencesOf (set : Ranges) : List ByteSequence :=
  set.flatMap fun (first, last) =>
    encodings.flatMap fun (rest, mark, low, high) =>
      let start := max first low
      let stop := min last high
      if start ≤ stop then byteSequences rest mark start stop else []

/-- The sequences in groups with the same beginning. -/
def groups (sequences : List ByteSequence) : List (List ByteSequence) :=
  sequences.splitBy fun left right => left.head? == right.head?

/-- The nodes of the tree of sequences, down to `depth`. A node is the list of the sequences that
lead on from it. -/
def nodes : Nat → List ByteSequence → List (List ByteSequence)
  | 0, _ => []
  | depth + 1, sequences =>
    if sequences.all List.isEmpty then []
    else
      sequences :: (groups sequences).flatMap fun group => nodes depth (group.map List.tail)

/-! ## Sizes of sets -/

/-- The size of a state. -/
def stateSize : Nat := 32

/-- The size of a state that tells `count` intervals of bytes apart. -/
def branchingSize (count : Nat) : Nat :=
  if count ≤ 1 then stateSize else stateSize + 8 * count

/-- The size of a state with a free choice of `count` ways. -/
def choiceSize (count : Nat) : Nat := stateSize + 4 * count

/-- The greatest number of bytes that encode a character. -/
def greatestLength : Nat := 4

/-- The sum of sizes. -/
def total (sizes : List Nat) : Nat := sizes.foldl (· + ·) 0

/-- The size of a set, where sequences share their ends. -/
def sharedEndsSize (set : Ranges) : Nat :=
  let distinct := Std.HashSet.ofList (nodes greatestLength (sequencesOf set))
  stateSize + total (distinct.toList.map fun node => branchingSize (groups node).length)

/-- The size of a set, where sequences share their beginnings. -/
def sharedBeginningsSize (set : Ranges) : Nat :=
  let sequences := sequencesOf set
  stateSize + choiceSize sequences.length +
    stateSize * total ((nodes greatestLength sequences).map fun node => (groups node).length)

/-- Whether the set holds ASCII characters only. -/
def isAscii (set : Ranges) : Bool := set.all fun (_, last) => last < 128

/-- The size of a set: one state where it is empty, one for each byte of a single character, two
where it is ASCII, and otherwise what its sequences need. -/
def setSize (sequencesSize : Ranges → Nat) (set : Ranges) : Nat :=
  match set with
  | [] => stateSize
  | [(first, last)] =>
    if first = last then stateSize * (Char.ofNat first).utf8Size
    else if last < 128 then stateSize + branchingSize 1
    else sequencesSize set
  | _ => if isAscii set then stateSize + branchingSize set.length else sequencesSize set

/-! ## Sizes of programs -/

/-- What the two directions count differently. -/
structure Direction where
  set : Ranges → Nat
  capture : Nat
  /-- What every automaton has besides its program. -/
  frame : Nat

/-- Reading forward: a state at each end of a group that captures. -/
def Direction.forward : Direction := ⟨setSize sharedEndsSize, 2 * stateSize, 200⟩

/-- Reading backward. -/
def Direction.backward : Direction := ⟨setSize sharedBeginningsSize, 0, 136⟩

/-- The size of a repetition of a body of this size. -/
def repeatedSize (least : Nat) (most : Option Nat) (body : Nat) (matchesEmpty : Bool) : Nat :=
  let once := choiceSize 2 + body
  match least, most with
  | 0, some 1 => stateSize + once
  | 0, none => if matchesEmpty then stateSize + choiceSize 2 + once else once
  | least, none => (least - 1) * body + once
  | least, some most =>
    let fixed := if least = 0 then stateSize else least * body
    if least = most then fixed else fixed + stateSize + (most - least) * once

mutual

/-- The size of the automaton of a program. -/
def Program.size (direction : Direction) : Program → Nat
  | .empty | .assertion => stateSize
  | .characters set => direction.set set
  | .capture body => direction.capture + body.size direction
  | .repeated least most body =>
    repeatedSize least most (body.size direction) body.matchesEmpty
  | .sequence parts => Program.sizeOfAll direction parts
  | .alternatives branches =>
    stateSize + choiceSize branches.length + Program.sizeOfAll direction branches

/-- The size of several programs. -/
def Program.sizeOfAll (direction : Direction) : List Program → Nat
  | [] => 0
  | part :: parts => part.size direction + Program.sizeOfAll direction parts

end

/-- The greatest size of an automaton. -/
def sizeLimit : Nat := 10 * 1024 * 1024

/-- Whether both automata of a program stay within the limit. -/
def Program.isWithinLimit (program : Program) : Bool :=
  [Direction.forward, Direction.backward].all fun direction =>
    direction.frame + program.size direction ≤ sizeLimit

end InputDocs.Pattern
