import InputDocs.Command.Run
import InputDocs.Pattern.Compile

/-!
# Main -- the program

The program is `Command.perform` with the effects of the machine it runs on. What is left to do at
the end is to say how the run ended.
-/

namespace InputDocs.Main

open Command

set_option autoImplicit false

/-- The bytes of standard input. -/
partial def readInput (input : IO.FS.Stream) (before : ByteArray) : IO ByteArray := do
  let more ← input.read 65536
  if more.isEmpty then return before else readInput input (before ++ more)

/-- Why a file cannot be read or written. -/
def faultOf : IO.Error → FileFault
  | .noFileOrDirectory .. => .missing
  | error => .other (toString error)

instance : System IO where
  readFile path := do
    try return .ok (← IO.FS.readBinFile path)
    catch error => return .error (faultOf error)
  readInput := do readInput (← IO.getStdin) ByteArray.empty
  print text := IO.print text
  writeFile path text := do
    try return .ok (← IO.FS.writeFile path text)
    catch error => return .error (faultOf error)

/-- A summary of the options. -/
def help : String :=
  "Generate nested input documentation from typed variable declarations\n\n" ++
  "Usage: [OPTIONS] [FILE]\n\n" ++
  "  -f, --format <FORMAT>         markdown, md or json\n" ++
  "  -r, --readme <README>         document to update between the markers\n" ++
  "      --start-marker <MARKER>   line that opens the region\n" ++
  "      --end-marker <MARKER>     line that closes the region\n" ++
  "      --reject-duplicate-keys   fail on repeated keys of an object literal\n" ++
  "      --max-depth <DEPTH>       nesting depth of a type expression, at most 256\n" ++
  "      --expr <EXPR>             print the tree of one type expression\n" ++
  "      --name <NAME>             declared name used with --expr\n" ++
  "  -h, --help                    print this summary\n"

end InputDocs.Main

open InputDocs InputDocs.Command InputDocs.Main in
/-- Run the command line. -/
def main (words : List String) : IO UInt32 := do
  let ending : Ending ← perform words
  match ending with
  | .help => IO.print help
  | .usage _ => IO.eprintln "error: these arguments make no sense; see --help"
  | .failed failure => IO.eprint failure.report
  | .done => pure ()
  return ending.exitCode.toUInt32
