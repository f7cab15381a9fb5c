import InputDocs.Doc.Directive
import InputDocs.Pattern.Read
import InputDocs.Pattern.Size

/-!
# Pattern.Compile -- whether a source is a usable pattern

A source is usable if it can be read, its parts do not lie too deep in each other, its flags and
properties can be worked out, and its automata are not too large.

This is the engine that the program runs with. It comes close to a full one but is not one, since
most properties are not tabulated (`PropertyName.members?`). Nothing that is said of documentation
rests on it: there the engine is any `PatternEngine`.
-/

namespace InputDocs.Pattern

set_option autoImplicit false

/-- The greatest nesting of a pattern. -/
def greatestNesting : Nat := 250

/-- Whether the source is a usable pattern. Unicode is on at its beginning. -/
def compiles (source : List Char) : Bool :=
  match parse source with
  | none => false
  | some pattern =>
    pattern.nesting ≤ greatestNesting &&
      match pattern.program? [.unicode] with
      | none => false
      | some (program, _) => program.isWithinLimit

/-- The engine of the program and of its sessions. -/
instance : PatternEngine := ⟨compiles⟩

end InputDocs.Pattern
