import InputDocs.Manifest
import InputDocs.Render.Link

/-!
# Render.Markdown -- a manifest as Markdown

A manifest is written in sections: the required inputs, the optional inputs, the nested types
under one heading with a section for each, and the reference links. A section without content is
left out, and a blank line parts the sections.

Each table is a pipe table of four columns. In a cell, a bar is escaped and a line feed becomes a
break (`escapeCell`), so that a row stays on its line.
-/

namespace InputDocs.Render

set_option autoImplicit false

/-- A character inside a cell. -/
def escapeCellChar (c : Char) : List Char :=
  if c = '|' then ['\\', '|']
  else if c = '\n' then "<br>".toList
  else [c]

/-- A text inside a cell. -/
def escapeCell (text : String) : String := String.ofList (text.toList.flatMap escapeCellChar)

/-- A text in backquotes, or nothing if there is none. -/
def codeSpan (text : String) : String := if text = "" then "" else "`" ++ text ++ "`"

/-! ## Notes -/

/-- An attribute in bold, with its content after a colon. What `see` points to becomes a link. -/
def attributeText (note : Note) : String :=
  if note.name = "See" then "**See:** " ++ seeLink note.content
  else if note.content = "" then "**" ++ note.name ++ "**"
  else "**" ++ note.name ++ ":** " ++ note.content

/-- A link with its label. -/
def linkText (note : Note) : String := "[" ++ note.name ++ "](" ++ note.content ++ ")"

/-- Attributes, examples and links, in this order. -/
def noteTexts (notes : Notes) : List String :=
  notes.attributes.map attributeText ++
    notes.examples.map (fun note => "Example: " ++ linkText note) ++
    notes.links.map linkText

/-! ## Tables -/

/-- The type of a row, with its nested type linked to the table of that name. -/
def typeCell (row : Row) : String :=
  match row.typeName, row.anchor, row.signatureParts with
  | some name, some anchor, some (before, after) =>
    escapeCell before ++ "[" ++ name ++ "](#" ++ anchor ++ ")" ++ escapeCell after
  | _, _, _ => codeSpan (escapeCell row.signature)

/-- The description of a row and its notes, with breaks between them. -/
def descriptionCell (row : Row) : String :=
  let description := if row.description = "" then [] else [row.description]
  "<br>".intercalate ((description ++ noteTexts row.notes).map escapeCell)

/-- A row of a table. -/
def rowText (row : Row) : String :=
  "| `" ++ row.name ++ "` | " ++ typeCell row ++ " | " ++ codeSpan (escapeCell row.default) ++
    " | " ++ descriptionCell row ++ " |"

/-- The head of a table. -/
def tableHead : List String :=
  ["| Name | Type | Default | Description |", "| ---- | ---- | ------- | ----------- |"]

/-- A heading, the description and the notes of a table, and its rows. -/
def tableText (heading : String) (table : Table) : String :=
  let description := if table.description = "" then [] else [table.description, ""]
  let notes :=
    if table.notes.isEmpty then [] else (noteTexts table.notes).map ("* " ++ ·) ++ [""]
  "\n".intercalate
    ([heading ++ "\n"] ++ description ++ notes ++ tableHead ++ table.rows.map rowText ++ [""])

/-! ## Sections -/

/-- The section of a table of inputs, unless it has no rows. -/
def inputSection (heading : String) (table : Table) : List String :=
  if table.rows = [] then [] else [tableText heading table]

/-- The heading of a nested type. -/
def nestedHeading (name : String) : String := "#### " ++ name

/-- The sections of the nested types. -/
def nestedSections (nested : Index Table) : List String :=
  if nested.isEmpty then []
  else "### Nested Types\n" ::
    nested.toList.map fun (name, table) => tableText (nestedHeading name) table

/-- The section of the reference links. -/
def referenceSection (references : Index String) : List String :=
  if references.isEmpty then []
  else ["\n".intercalate
    (references.toList.map (fun (name, target) => "[" ++ name ++ "]: " ++ target) ++ [""])]

/-- A manifest as Markdown. -/
def markdown (manifest : Manifest) : String :=
  "\n".intercalate
    (inputSection "### Required Inputs" manifest.required ++
      inputSection "### Optional Inputs" manifest.optional ++
      nestedSections manifest.nested ++ referenceSection manifest.references)

end InputDocs.Render
