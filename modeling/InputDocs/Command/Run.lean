import InputDocs.Command.Arguments
import InputDocs.Command.Directory
import InputDocs.Command.World
import InputDocs.Manifest.Contribution
import InputDocs.Render.Format

/-!
# Command.Run -- what a command line does

With an expression, the group it documents to is printed as JSON. Otherwise variables are read
from a file or from standard input and rendered; the rendering is printed, or put between the
markers of a document.

`perform` is the program, in any system. What can fail is read or worked out before anything is
printed or written, and the document is written last. `run` performs it where files are known by
what is read of them, and puts on record what it prints and writes (`Outcome`).
-/

namespace InputDocs.Command

set_option autoImplicit false

/-- Why a run fails. -/
inductive Failure where
  | unreadable (path : String) (fault : FileFault)
  | unreadableInput (fault : FileFault)
  | badVariables (error : ReadError)
  | format (error : Render.UnknownFormat)
  | document (path : String) (error : Splice.Error)
  | unwritable (path : String) (fault : FileFault)
  | expression (text : String) (error : DocumentError)
  deriving DecidableEq, Repr

namespace Failure

/-- What failed. -/
def context : Failure → String
  | unreadable path _ => "failed to read " ++ path
  | unreadableInput _ => "failed to read stdin"
  | badVariables _ => "invalid variables JSON"
  | format error => error.message
  | document path _ => "cannot update " ++ path
  | unwritable path _ => "failed to write " ++ path
  | expression text _ => "failed to document `" ++ text ++ "`"

/-- Why it failed, where that is not said already. -/
def cause : Failure → Option String
  | unreadable _ fault | unreadableInput fault | unwritable _ fault => some fault.message
  | badVariables .endsEarly => some "the text ends too early"
  | badVariables .malformed => some "the text is malformed"
  | badVariables .mismatch => some "a value does not describe a variable"
  | format _ => none
  | document _ error => some error.message
  | expression _ error => some error.message

/-- Every line of a cause four blanks in. -/
def indent (cause : String) : String :=
  String.ofList
    (['\n'].intercalate ((cause.toList.splitOn '\n').map fun line => "    ".toList ++ line))

/-- The report of a failure. -/
def report (failure : Failure) : String :=
  "Error: " ++ failure.context ++ "\n" ++
    (failure.cause.map fun cause => "\nCaused by:\n" ++ indent cause ++ "\n").getD ""

end Failure

/-! ## The program -/

/-- The text of bytes, which must be well-formed. -/
def decode (bytes : ByteArray) : Except FileFault String :=
  match String.fromUTF8? bytes with
  | some text => .ok text
  | none => .error .notText

section Program

variable {m : Type → Type} [Monad m] [System m]

/-- What a step results in, or the failure that its fault is reported as. -/
def orFail {ε α : Type} (result : Except ε α) (reason : ε → Failure) : ExceptT Failure m α :=
  ExceptT.mk (pure (result.mapError reason))

/-- The text of the file at a path. -/
def readText (path : String) : ExceptT Failure m String := do
  let answer ← System.readFile (m := m) path
  orFail (answer.bind decode) (.unreadable path)

/-- The text of standard input. -/
def readInputText : ExceptT Failure m String := do
  let bytes ← System.readInput (m := m)
  orFail (decode bytes) .unreadableInput

/-- Write a text to the file at a path. -/
def writeText (path text : String) : ExceptT Failure m Unit := do
  let answer ← System.writeFile (m := m) path text
  orFail answer (.unwritable path)

/-- The variables of a run, from a file or from standard input. -/
def readVariables (file : Option String) : ExceptT Failure m (List Variable) := do
  let text ← match file with
    | some path => readText path
    | none => readInputText
  orFail (Variable.listOfText text) .badVariables

/-- Put a rendering between the markers of the document at a path. -/
def updateDocument (path rendered : String) (markers : String × String) :
    ExceptT Failure m Unit := do
  let old ← readText path
  let new ← orFail (splice old markers.1 markers.2 rendered) (.document path)
  writeText path new

variable [PatternEngine]

/-- Document one expression. -/
def runExpr (arguments : Arguments) (expr : String) : ExceptT Failure m Unit := do
  let documented := document arguments.options (arguments.name.getD "") expr
  let group ← orFail documented.outcome (.expression expr)
  System.print (m := m) ((Render.groupJson group).pretty ++ "\n")

/-- Render variables, and update a document if there is one. -/
def runFiles (arguments : Arguments) : ExceptT Failure m Unit := do
  let inputs ← readVariables arguments.file
  let manifest := Manifest.ofVariables arguments.options inputs
  let format ← orFail (Render.Format.ofName (arguments.format.getD "markdown")) .format
  let rendered := format.render manifest
  match arguments.readme with
  | none => System.print (m := m) rendered
  | some path => updateDocument path rendered arguments.markers

/-- Run with arguments that make sense. -/
def runArguments (arguments : Arguments) : ExceptT Failure m Unit :=
  match arguments.expr with
  | some expr => runExpr arguments expr
  | none => runFiles arguments

/-- How a run ends. -/
inductive Ending where
  | help
  | usage (error : UsageError)
  | failed (failure : Failure)
  | done
  deriving DecidableEq, Repr

/-- The exit code. -/
def Ending.exitCode : Ending → Nat
  | usage _ => 2
  | failed _ => 1
  | help | done => 0

/-- Run a command line. -/
def perform (words : List String) : m Ending :=
  match Arguments.parse words with
  | .error error => return .usage error
  | .ok .help => return .help
  | .ok (.done arguments) => do
    match ← (runArguments arguments).run with
    | .error failure => return .failed failure
    | .ok () => return .done

end Program

/-! ## Runs on record -/

/-- What a run has printed and written, in order, and how it ended. -/
structure Outcome where
  effects : List Effect
  ending : Ending

namespace Outcome

/-- Words that make no sense, with nothing done before. -/
@[match_pattern] def usage (error : UsageError) : Outcome := ⟨[], .usage error⟩

/-- A failure with nothing done before it. -/
@[match_pattern] def failed (failure : Failure) : Outcome := ⟨[], .failed failure⟩

/-- The exit code. -/
def exitCode (outcome : Outcome) : Nat := outcome.ending.exitCode

/-- What is printed. -/
def output (outcome : Outcome) : String := String.join (outcome.effects.map Effect.printed)

/-- The directory after the run. -/
def apply (directory : Directory) (outcome : Outcome) : Directory :=
  outcome.effects.foldl (fun directory effect =>
    match effect with
    | .print _ => directory
    | .write path text => (directory.write path text.toUTF8).1) directory

end Outcome

/-- The record of a run where files read as given. -/
def run [PatternEngine] (read : String → Except FileFault ByteArray) (input : ByteArray)
    (words : List String) : Outcome :=
  let (ending, after) := (perform words : StateM (World Readings) Ending) ⟨⟨read⟩, input, []⟩
  ⟨after.effects, ending⟩

end InputDocs.Command
