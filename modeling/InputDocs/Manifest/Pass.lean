import InputDocs.Field.Write
import InputDocs.Manifest.Contribution

/-!
# Manifest.Pass -- one manifest, written to from place to place

A manifest is threaded through all the variables. Whoever comes across a directive puts it where it
goes, at the end of a list of notes or under its name in the reference links of the manifest
(`Gathered.addAll`); so the links of a variable's description are there before those of its fields.
Each record with a type name puts a table under that name, over the one that may be there, and that
is told as it happens (`Built.addTable`).

Kind and style of a directive say where it goes, and its arguments are read by their numbers
(`DirectiveRecord.place?`). A record could lack an argument that is read, and then there is no
result.
-/

namespace InputDocs

set_option autoImplicit false

/-! ## Directives -/

/-- The notes of a table or a row, and the reference links of the manifest it is in. -/
structure Gathered where
  notes : Notes
  references : Index String

/-- Notes with others after them. -/
def Notes.append (first second : Notes) : Notes where
  attributes := first.attributes ++ second.attributes
  examples := first.examples ++ second.examples
  links := first.links ++ second.links

/-- Where a directive can go, and what is put there. -/
inductive Place where
  | attribute (note : Note)
  | sample (note : Note)
  | link (note : Note)
  | reference (name target : String)
  | nowhere

/-- Put something in its place: at the end of a list, or under its name in the reference links. -/
def Gathered.put (gathered : Gathered) : Place → Gathered
  | .attribute note => { gathered with notes := gathered.notes.append ⟨[note], [], []⟩ }
  | .sample note => { gathered with notes := gathered.notes.append ⟨[], [note], []⟩ }
  | .link note => { gathered with notes := gathered.notes.append ⟨[], [], [note]⟩ }
  | .reference name target =>
    { gathered with references := gathered.references.insert name target }
  | .nowhere => gathered

namespace DirectiveRecord

/-- Whether the directive is shown: a known one if it is valid, an unknown one always. -/
def isShown (record : DirectiveRecord) : Bool :=
  record.meaning.isValid || record.meaning.kind = "unsupported"

/-- The attribute that shows the directive by its name. -/
def titled (record : DirectiveRecord) : Note :=
  ⟨String.ofList (Unicode.capitalize record.name.toList), record.content⟩

/-- The place that kind and style name. There is none if an argument is missing that is read. -/
def place? (record : DirectiveRecord) : Option Place :=
  if record.isShown then
    match record.meaning.kind, record.meaning.linkStyle with
    | "example", _ => do
      return .sample ⟨← record.meaning.arguments[0]?, ← record.meaning.arguments[1]?⟩
    | "link", some .named => do
      return .link ⟨← record.meaning.arguments[0]?, ← record.meaning.arguments[1]?⟩
    | "link", _ => do
      return .reference (← record.meaning.arguments[0]?) (← record.meaning.arguments[1]?)
    | _, _ => some (.attribute record.titled)
  else some .nowhere

end DirectiveRecord

/-- Gather records one after the other, as long as no argument is missing. -/
def Gathered.addAll (start : Gathered) (records : List DirectiveRecord) : Option Gathered :=
  records.foldlM (fun gathered record => record.place?.map gathered.put) start

/-! ## Tables -/

/-- The content as one text. -/
def DocRecord.text (doc : DocRecord) : String := "\n".intercalate doc.lines

namespace FieldRecord

/-- The row of a record, and the reference links with those that its directives define. -/
def row (record : FieldRecord) (references : Index String) : Option (Row × Index String) := do
  let gathered ← Gathered.addAll ⟨.none, references⟩ record.doc.directives
  let row : Row := {
    signature := record.signature
    typeName := record.typeName
    name := record.name
    default := record.default.getD ""
    description := record.doc.text
    notes := gathered.notes }
  return (row, gathered.references)

/-- The rows of records, one after the other. -/
def rows (references : Index String) : List FieldRecord → Option (List Row × Index String)
  | [] => some ([], references)
  | record :: rest => do
    let (row, references) ← record.row references
    let (rows, references) ← rows references rest
    return (row :: rows, references)

end FieldRecord

/-- The row with the type of a group, if that has a name. -/
def GroupRecord.writeInto (group : GroupRecord) (row : Row) : Row :=
  match group.field.typeName with
  | some name => { row with signature := group.field.signature, typeName := some name }
  | none => row

/-- The manifest so far, and what was told on the way. -/
structure Built where
  manifest : Manifest
  events : List Event

namespace Built

/-- Tell one more event. -/
def tell (built : Built) (event : Event) : Built := { built with events := built.events ++ [event] }

/-- Put the table of a record under its type name, if it has one. -/
def addTable (built : Built) (record : FieldRecord) : Option Built :=
  match record.typeName with
  | none => some built
  | some name => do
    let gathered ← Gathered.addAll ⟨.none, built.manifest.references⟩ record.doc.directives
    let (rows, references) ← FieldRecord.rows gathered.references record.children
    let table : Table := ⟨record.doc.text, gathered.notes, rows⟩
    let nested := built.manifest.nested.insert name table
    let added : Built := { built with manifest := { built.manifest with nested, references } }
    return if name ∈ built.manifest.nested then added.tell (.typeNameReused name) else added

/-- Put the tables of all records of a group that have a type name, parents first. -/
def addTables (built : Built) (group : GroupRecord) : Option Built :=
  group.field.nestedRecords.foldlM addTable built

/-- Put a row at the end of the table it belongs to. -/
def addRow (built : Built) (isRequired : Bool) (row : Row) : Built :=
  let manifest := built.manifest
  { built with
    manifest :=
      if isRequired then { manifest with required := manifest.required.addRow row }
      else { manifest with optional := manifest.optional.addRow row } }

variable [PatternEngine]

/-- Document the type of a variable, if it has one that is not blank. -/
def documentType (options : Options) (input : Variable) :
    Traced DocumentError (Option GroupRecord) :=
  match input.type with
  | none => return none
  | some text =>
    if Unicode.trim text.toList = [] then return none else documentRecord options input.name text

/-- The group that a variable's type documents to. If it cannot be documented that is told. -/
def group (built : Built) (options : Options) (input : Variable) : Built × Option GroupRecord :=
  let documented := documentType options input
  let built := { built with events := built.events ++ documented.events }
  match documented.outcome with
  | .ok group => (built, group)
  | .error error => (built.tell (.notDocumented input.name error), none)

/-- Add a variable. -/
def addVariable (options : Options) (built : Built) (input : Variable) : Option Built := do
  let (built, group) := built.group options input
  let doc := (Doc.ofDescription input.description).record
  let gathered ← Gathered.addAll ⟨.none, built.manifest.references⟩ doc.directives
  let built := { built with
    manifest := { built.manifest with references := gathered.references } }
  let row : Row := {
    signature := input.type.getD ""
    typeName := none
    name := input.name
    default := input.defaultText
    description := doc.text
    notes := gathered.notes }
  match group with
  | none => return built.addRow input.isRequired row
  | some group => do
    let built ← built.addTables group
    return built.addRow input.isRequired (group.writeInto row)

/-- Add variables one after the other, from a manifest of no inputs on. -/
def addAll (options : Options) (inputs : List Variable) : Option Built :=
  inputs.foldlM (addVariable options) ⟨.empty, []⟩

end Built

end InputDocs
