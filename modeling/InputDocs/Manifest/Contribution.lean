import InputDocs.Field.Resolve
import InputDocs.Manifest
import InputDocs.Variable

/-!
# Manifest.Contribution -- what one variable adds to a manifest

A variable adds one row to the table it belongs to. If its type documents to a group with a
nested type, the row shows the resolved signature and the group adds a table for each nested type
inside it, parents first; otherwise the row shows the type as it is written. Reference links come
from the description and from the documentation of every field in the added tables.

`Contribution.ofVariable` depends on the variable and the options alone, and a manifest is what
remains when contributions are added one after the other (`Manifest.ofVariables`). Only the
events look at what was there before: a type name is reported when it is used again.
-/

namespace InputDocs

set_option autoImplicit false

/-! ## Directives -/

namespace Directive

/-- The note that shows a directive by its name. -/
def titled (directive : Directive) : Note :=
  ⟨String.ofList (Unicode.capitalize directive.name.toList), directive.content⟩

/-- The attribute a directive adds, unless it is shown in another way or not at all. -/
def attribute? (directive : Directive) : Option Note :=
  match directive.meaning with
  | .malformed _ | .sample _ _ | .link _ _ _ => none
  | _ => some directive.titled

/-- The example a directive adds. -/
def example? (directive : Directive) : Option Note :=
  match directive.meaning with
  | .sample name target => some ⟨name, target⟩
  | _ => none

/-- The link a directive adds in place. -/
def link? (directive : Directive) : Option Note :=
  match directive.meaning with
  | .link .named name target => some ⟨name, target⟩
  | _ => none

/-- The reference link a directive defines. -/
def reference? (directive : Directive) : Option (String × String) :=
  match directive.meaning with
  | .link .reference name target => some (name, target)
  | _ => none

end Directive

namespace Doc

/-- What the directives add to a table or a row. -/
def notes (doc : Doc) : Notes where
  attributes := doc.directives.filterMap Directive.attribute?
  examples := doc.directives.filterMap Directive.example?
  links := doc.directives.filterMap Directive.link?

/-- The reference links defined, in order. -/
def references (doc : Doc) : List (String × String) :=
  doc.directives.filterMap Directive.reference?

end Doc

/-! ## Fields -/

namespace Field

/-- The row of a field in the table of the type it is in. -/
def row (field : Field) : Row where
  signature := field.signature
  typeName := field.typeName?
  name := field.name
  default := field.presence.default?.getD ""
  description := field.doc.text
  notes := field.doc.notes

/-- The table of a field's own type. -/
def table (field : Field) : Table where
  description := field.doc.text
  notes := field.doc.notes
  rows := field.children.map row

/-- The type name and the table of a field with a type of its own. -/
def entry? (field : Field) : Option (String × Table) :=
  field.typeName?.map fun name => (name, field.table)

/-- The reference links defined in the table of a field: its own, then those of its rows. -/
def tableReferences (field : Field) : List (String × String) :=
  field.doc.references ++ field.children.flatMap fun child => child.doc.references

end Field

/-! ## Variables -/

/-- What one variable adds to a manifest. -/
structure Contribution where
  isRequired : Bool
  row : Row
  tables : List (String × Table)
  references : List (String × String)
  events : List Event

namespace Variable

/-- The group that the variable's type documents to. A blank type documents to none. -/
def group [PatternEngine] (options : Options) (input : Variable) :
    Traced DocumentError (Option Group) :=
  match input.type with
  | none => return none
  | some text =>
    if Unicode.trim text.toList = [] then return none else document options input.name text

/-- The row of a variable whose type has not been resolved. -/
def plainRow (input : Variable) (doc : Doc) : Row where
  signature := input.type.getD ""
  typeName := none
  name := input.name
  default := input.defaultText
  description := doc.text
  notes := doc.notes

end Variable

namespace Contribution

/-- The row of a variable, with the signature of its group if that has a type of its own. -/
def resolvedRow (row : Row) (group : Option Group) : Row :=
  match group with
  | some ⟨field, _⟩ =>
    match field.typeName? with
    | some name => { row with signature := field.signature, typeName := some name }
    | none => row
  | none => row

/-- What a variable adds. A type that cannot be documented adds an event and nothing else. -/
def ofVariable [PatternEngine] (options : Options) (input : Variable) : Contribution :=
  let doc := Doc.ofDescription input.description
  let documented := input.group options
  let group := documented.outcome.toOption.join
  let nested := (group.map fun found => found.field.nestedFields).getD []
  { isRequired := input.isRequired
    row := resolvedRow (input.plainRow doc) group
    tables := nested.filterMap Field.entry?
    references := doc.references ++ nested.flatMap Field.tableReferences
    events := documented.events ++
      match documented.outcome with
      | .ok _ => []
      | .error error => [.notDocumented input.name error] }

end Contribution

/-! ## Manifests -/

namespace Manifest

/-- The manifest with what one more variable adds. -/
def add (manifest : Manifest) (added : Contribution) : Manifest where
  required := if added.isRequired then manifest.required.addRow added.row else manifest.required
  optional := if added.isRequired then manifest.optional else manifest.optional.addRow added.row
  nested := manifest.nested.insertMany added.tables
  references := manifest.references.insertMany added.references

/-- The manifest of a list of variables. -/
def ofVariables [PatternEngine] (options : Options) (inputs : List Variable) : Manifest :=
  (inputs.map (Contribution.ofVariable options)).foldl add empty

/-- The events of adding tables: a type name that is there already is reported. -/
def reuseEvents (known : Index Table) : List (String × Table) → List Event
  | [] => []
  | (name, table) :: rest =>
    let others := reuseEvents (known.insert name table) rest
    if name ∈ known then .typeNameReused name :: others else others

/-- The events of adding contributions to a manifest. -/
def eventsFrom (manifest : Manifest) : List Contribution → List Event
  | [] => []
  | added :: rest =>
    added.events ++ reuseEvents manifest.nested added.tables ++ eventsFrom (manifest.add added) rest

/-- The events of building the manifest of a list of variables. -/
def events [PatternEngine] (options : Options) (inputs : List Variable) : List Event :=
  empty.eventsFrom (inputs.map (Contribution.ofVariable options))

end Manifest

end InputDocs
