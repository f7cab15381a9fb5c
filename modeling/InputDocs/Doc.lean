import InputDocs.Doc.Directive
import InputDocs.Text.Affix
import InputDocs.TypeExpr

/-!
# Doc -- documentation read from comments and descriptions

Documentation is a list of lines. A line that starts with `@` and a name is a directive; every
other line is content, trimmed. Blank content lines are kept inside and dropped at both ends.

Comments carry marks that are no part of their lines: `///` before a line; `/**`, `*/` and one
star before each line of a block. A description has no marks. All three ways of writing the same
lines give the same documentation, because `Doc.ofLines` trims every line it is given.
-/

namespace InputDocs

set_option autoImplicit false

/-- Documentation: content lines and directives, each in the order written. -/
structure Doc where
  lines : List String
  directives : List Directive
  deriving DecidableEq, Repr

namespace Doc

open Unicode (trim)

/-- Documentation that says nothing. -/
def empty : Doc := ⟨[], []⟩

/-- Whether there is neither content nor a directive. -/
def isEmpty (doc : Doc) : Bool := doc.lines.isEmpty && doc.directives.isEmpty

/-- The content as one text. -/
def text (doc : Doc) : String := "\n".intercalate doc.lines

variable [PatternEngine]

/-- The directive that a trimmed line holds. The name ends at the first blank, and a line without
a name is content. -/
def directive? : List Char → Option Directive
  | '@' :: rest =>
    let name := rest.takeWhile (· ≠ ' ')
    if name = [] then none
    else some (.ofContent (String.ofList name) ((rest.dropWhile (· ≠ ' ')).drop 1))
  | _ => none

/-- Lines without the blank ones at both ends. -/
def dropBlankEnds (lines : List String) : List String :=
  (((lines.dropWhile (· = "")).reverse).dropWhile (· = "")).reverse

/-- Documentation from lines without comment marks. -/
def ofLines (lines : List (List Char)) : Doc :=
  let trimmed := lines.map trim
  { lines := dropBlankEnds
      ((trimmed.filter fun line => (directive? line).isNone).map String.ofList)
    directives := trimmed.filterMap directive? }

/-- A line of a block without its star. -/
def blockLine (line : List Char) : List Char := Text.stripStart ['*'] (trim line)

/-- Documentation from a comment. -/
def ofComment : Comment → Doc
  | .lines lines => ofLines (lines.map fun line => Text.stripStart "///".toList line.toList)
  | .block text =>
    let inner := Text.stripEnd "*/".toList (Text.stripStart "/**".toList text.toList)
    ofLines ((inner.splitOn '\n').map blockLine)

/-- Documentation from a text without comment marks. -/
def ofDescription (text : String) : Doc := ofLines (text.toList.splitOn '\n')

end Doc

end InputDocs
