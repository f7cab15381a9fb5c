import InputDocs.Render.Json
import InputDocs.Render.Markdown

/-!
# Render.Format -- formats by name

A manifest is rendered as Markdown or as JSON. Formats are asked for by name, in either case of
letters, and Markdown has a short name too.
-/

namespace InputDocs.Render

set_option autoImplicit false

/-- An output format. -/
inductive Format where
  | markdown
  | json
  deriving DecidableEq, Repr

/-- A name that no format has. -/
structure UnknownFormat where
  name : String
  deriving DecidableEq, Repr

/-- The names of the formats, as messages list them. -/
def formatNames : List (String × Format) :=
  [("markdown", .markdown), ("md", .markdown), ("json", .json)]

/-- The wording of the error. -/
def UnknownFormat.message (error : UnknownFormat) : String :=
  "unknown format `" ++ error.name ++ "` (expected one of: " ++
    ", ".intercalate (formatNames.map (·.1)) ++ ")"

/-- The format with a name. -/
def Format.ofName (name : String) : Except UnknownFormat Format :=
  match formatNames.lookup name.toLower with
  | some format => .ok format
  | none => .error ⟨name⟩

/-- A manifest in a format. -/
def Format.render : Format → Manifest → String
  | markdown => Render.markdown
  | json => Render.json

end InputDocs.Render
