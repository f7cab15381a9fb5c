import InputDocs.Field
import InputDocs.Json
import InputDocs.Manifest

/-!
# Render.Json -- manifests and groups as JSON

Every part of a manifest or of a group becomes an object whose keys stand in a fixed order. Notes
and the name of a nested type stand only where there are any; everything else always stands.
-/

namespace InputDocs.Render

set_option autoImplicit false

/-- A text, or `null` if there is none. -/
def optionalText : Option String → Json
  | none => .null
  | some text => .string text

/-! ## Manifests -/

/-- A note as an object. -/
def noteJson (note : Note) : Json :=
  .object [("name", .string note.name), ("content", .string note.content)]

/-- Notes under a key, unless there are none. -/
def noteEntries (key : String) (notes : List Note) : List (String × Json) :=
  if notes = [] then [] else [(key, .array (notes.map noteJson))]

/-- The three kinds of notes. -/
def notesEntries (notes : Notes) : List (String × Json) :=
  noteEntries "attributes" notes.attributes ++ noteEntries "examples" notes.examples ++
    noteEntries "links" notes.links

/-- A row as an object. -/
def rowJson (row : Row) : Json :=
  .object
    ([("type", .string row.signature)] ++
      (row.typeName.map fun name => ("complex_type", Json.string name)).toList ++
      [("name", .string row.name), ("default_value", .string row.default),
        ("description", .string row.description)] ++
      notesEntries row.notes)

/-- A table as an object. -/
def tableJson (table : Table) : Json :=
  .object
    ([("description", .string table.description)] ++ notesEntries table.notes ++
      [("rows", .array (table.rows.map rowJson))])

/-- A manifest as an object. -/
def manifestJson (manifest : Manifest) : Json :=
  .object
    [ ("required_inputs", tableJson manifest.required),
      ("optional_inputs", tableJson manifest.optional),
      ("nested_inputs",
        .object (manifest.nested.toList.map fun (name, table) => (name, tableJson table))),
      ("reference_links",
        .object (manifest.references.toList.map fun (name, target) => (name, .string target))) ]

/-- A manifest as a JSON document. -/
def json (manifest : Manifest) : String := (manifestJson manifest).pretty ++ "\n"

/-! ## Groups -/

/-- The word for a style of links. -/
def linkStyleText : LinkStyle → String
  | .named => "named"
  | .reference => "reference"

/-- The meaning of a directive as an object. -/
def meaningJson (meaning : Meaning) : Json :=
  .object
    ([("kind", .string meaning.kind), ("args", .array (meaning.arguments.map .string)),
        ("valid", .bool meaning.isValid)] ++
      (meaning.linkStyle.map fun style => ("link_style", Json.string (linkStyleText style))).toList)

/-- A directive as an object. -/
def directiveJson (directive : Directive) : Json :=
  .object
    [ ("name", .string directive.name), ("raw_content", .string directive.content),
      ("parsed", meaningJson directive.meaning) ]

/-- Documentation as an object. -/
def docJson (doc : Doc) : Json :=
  .object
    [ ("content_lines", .array (doc.lines.map .string)),
      ("directives", .array (doc.directives.map directiveJson)) ]

mutual

/-- The entries of a field's object. -/
def fieldEntries : Field → List (String × Json)
  | ⟨name, doc, .plain signature, presence⟩ =>
    [ ("name", .string name), ("documentation", docJson doc),
      ("data_type_str", .string signature), ("optional", .bool presence.isOptional),
      ("default_value", optionalText presence.default?), ("nested_type_name", .null),
      ("children", .array []) ]
  | ⟨name, doc, .nested collection typeName children, presence⟩ =>
    [ ("name", .string name), ("documentation", docJson doc),
      ("data_type_str", .string (collection.wrap (objectSignature typeName))),
      ("optional", .bool presence.isOptional),
      ("default_value", optionalText presence.default?), ("nested_type_name", .string typeName),
      ("children", .array (fieldsJson children)) ]

/-- Fields as objects. -/
def fieldsJson : List Field → List Json
  | [] => []
  | field :: rest => .object (fieldEntries field) :: fieldsJson rest

end

/-- A group as an object, or `null` if there is none. -/
def groupJson : Option Group → Json
  | none => .null
  | some group =>
    .object (fieldEntries group.field ++ [("collection_prefix", .string group.collection.text)])

end InputDocs.Render
