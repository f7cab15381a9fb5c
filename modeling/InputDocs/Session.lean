import InputDocs.Manifest.Contribution
import InputDocs.Pattern.Compile
import InputDocs.Render.Format
import InputDocs.Splice

/-!
# Session -- a document under repeated updates

A session holds a document, a list of variables and the options they are documented with. Steps
change the list or the options, or put something between the markers of the document. A step that
fails says why and changes nothing (`Session.step`).
-/

namespace InputDocs

set_option autoImplicit false

/-- A document with the variables it is to show. -/
structure Session where
  document : String
  inputs : List Variable := []
  options : Options := {}

namespace Session

/-- A change to a session. -/
inductive Step where
  /-- Add the variables of a text to the list. -/
  | add (text : String)
  | clear
  | configure (options : Options)
  /-- Put the rendered list between markers. -/
  | update (format start stop : String)
  /-- Put a text between markers. -/
  | replace (content start stop : String)
  deriving Repr

/-- Why a step fails. -/
inductive Error where
  | badVariables (error : ReadError)
  | format (error : Render.UnknownFormat)
  | splice (error : Splice.Error)
  deriving DecidableEq, Repr

/-- What a step answers. -/
inductive Answer where
  | count (length : Nat)
  | maxDepth (limit : Nat)
  | document (text : String)
  deriving DecidableEq, Repr

/-- The session with another document, which is also the answer. -/
def withDocument (session : Session) (text : String) : Session × Answer :=
  ({ session with document := text }, .document text)

/-- A step, unless it fails. -/
def step (session : Session) : Step → Except Error (Session × Answer)
  | .add text => do
    let more ← (Variable.listOfText text).mapError .badVariables
    let all := session.inputs ++ more
    return ({ session with inputs := all }, .count all.length)
  | .clear => return ({ session with inputs := [] }, .count 0)
  | .configure options => return ({ session with options }, .maxDepth options.maxDepth)
  | .update name start stop => do
    let format ← (Render.Format.ofName name).mapError .format
    let rendered := format.render (.ofVariables session.options session.inputs)
    return session.withDocument (← (splice session.document start stop rendered).mapError .splice)
  | .replace content start stop => do
    return session.withDocument (← (splice session.document start stop content).mapError .splice)

/-- All steps in order, each from the session the last successful one left. -/
def run (session : Session) : List Step → Session × List (Except Error Answer)
  | [] => (session, [])
  | first :: rest =>
    match session.step first with
    | .ok (next, answer) =>
      let (last, answers) := next.run rest
      (last, .ok answer :: answers)
    | .error error =>
      let (last, answers) := session.run rest
      (last, .error error :: answers)

end Session

end InputDocs
