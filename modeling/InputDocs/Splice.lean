import InputDocs.Unicode.Blank

/-!
# Splice -- replacing the text between markers

A document may hold regions between two marker lines, which stand on lines of their own, white
space around them aside. `splice` puts new content in the place of what stands in every region
and keeps the marker lines and everything outside.

A line opens a region if it is the start marker and none is open, and closes one if it is the end
marker and one is open; a marker in any other place is text like any other.
-/

namespace InputDocs

set_option autoImplicit false

namespace Splice

open Unicode (trim)

/-- Why content cannot be put into a document. -/
inductive Error where
  | missingStart (marker : String)
  /-- A region is left open at the end of the document. -/
  | missingEnd (marker : String)
  deriving DecidableEq, Repr

/-- The wording of the error. -/
def Error.message : Error → String
  | missingStart marker => "start marker `" ++ marker ++ "` not found"
  | missingEnd marker => "end marker `" ++ marker ++ "` not found after start marker"

/-- The start marker where none is asked for. -/
def defaultStart : String := "<!-- TFDOCS_EXTRAS_START -->"

/-- The end marker where none is asked for. -/
def defaultEnd : String := "<!-- TFDOCS_EXTRAS_END -->"

/-- The lines with `content` as the one line of every region; `inside` says whether a region is
open. Nothing if one is still open at the end. -/
def fill (start stop content : List Char) (inside : Bool) :
    List (List Char) → Option (List (List Char))
  | [] => if inside then none else some []
  | line :: rest =>
    if inside then
      if trim line = stop then (fill start stop content false rest).map (line :: ·)
      else fill start stop content true rest
    else if trim line = start then
      (fill start stop content true rest).map fun others => line :: content :: others
    else (fill start stop content false rest).map (line :: ·)

end Splice

/-- The document with `content`, less the line feeds at its end, in every region between the
markers. -/
def splice (document start stop content : String) : Except Splice.Error String :=
  let lines := document.toList.splitOn '\n'
  if lines.any fun line => Unicode.trim line = start.toList then
    let body := Unicode.dropEnd (· = '\n') content.toList
    match Splice.fill start.toList stop.toList body false lines with
    | some filled => .ok (String.ofList (['\n'].intercalate filled))
    | none => .error (.missingEnd stop)
  else .error (.missingStart start)

end InputDocs
