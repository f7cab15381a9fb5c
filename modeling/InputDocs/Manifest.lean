import InputDocs.Text.Find
import InputDocs.Unicode.Case
import Std.Data.ExtTreeMap

/-!
# Manifest -- tables of inputs

A manifest lists the inputs of a module: a table of required and one of optional inputs, a table
for each nested type under its name, and the reference links collected from all documentation.
Tables and rows carry what directives say beside the description: attributes, examples and links.

Nested tables and reference links are maps ordered by their keys, so two manifests with the same
entries are equal however they came about. `Manifest.merge` puts two manifests together; of two
entries with one key the second stays.
-/

namespace InputDocs

set_option autoImplicit false

/-- A name with a content, as directives give them. -/
structure Note where
  name : String
  content : String
  deriving DecidableEq, Repr

/-- What directives add to a table or a row. -/
structure Notes where
  attributes : List Note
  examples : List Note
  links : List Note
  deriving DecidableEq, Repr

namespace Notes

/-- No notes. -/
def none : Notes := ⟨[], [], []⟩

/-- Whether there are no notes. -/
def isEmpty (notes : Notes) : Bool :=
  notes.attributes.isEmpty && notes.examples.isEmpty && notes.links.isEmpty

end Notes

/-- The row of an input. -/
structure Row where
  /-- The type as it is shown. -/
  signature : String
  /-- The name of the nested type that the signature mentions. -/
  typeName : Option String
  name : String
  default : String
  description : String
  notes : Notes
  deriving DecidableEq, Repr

namespace Row

/-- The anchor of the table of the row's nested type. -/
def anchor (row : Row) : Option String :=
  row.typeName.map fun name => String.ofList (Unicode.lowercase name.toList)

/-- The signature before and after the last mention of the nested type. -/
def signatureParts (row : Row) : Option (String × String) := do
  let name ← row.typeName
  let (before, after) ← Text.splitLast name.toList row.signature.toList
  return (String.ofList before, String.ofList after)

end Row

/-- A table of inputs. -/
structure Table where
  description : String
  notes : Notes
  rows : List Row
  deriving DecidableEq, Repr

namespace Table

/-- A table with nothing in it. -/
def empty : Table := ⟨"", .none, []⟩

/-- The table with another row at its end. -/
def addRow (table : Table) (row : Row) : Table := { table with rows := table.rows ++ [row] }

end Table

/-- A map ordered by its keys. -/
abbrev Index (α : Type) := Std.ExtTreeMap String α compare

/-- The tables of a list of inputs. -/
structure Manifest where
  required : Table
  optional : Table
  /-- The table of each nested type. -/
  nested : Index Table
  /-- The target of each reference link. -/
  references : Index String

namespace Manifest

/-- A manifest of no inputs. -/
def empty : Manifest := ⟨.empty, .empty, ∅, ∅⟩

/-- Whether there is no row and no nested table. -/
def isEmpty (manifest : Manifest) : Bool :=
  manifest.required.rows.isEmpty && manifest.optional.rows.isEmpty && manifest.nested.isEmpty

/-- Two manifests put together: the rows of the second after those of the first, and of two
entries with one key the second. -/
def merge (first second : Manifest) : Manifest where
  required := { first.required with rows := first.required.rows ++ second.required.rows }
  optional := { first.optional with rows := first.optional.rows ++ second.optional.rows }
  nested := first.nested ∪ second.nested
  references := first.references ∪ second.references

end Manifest

end InputDocs
