import InputDocs.Field.Resolve
import InputDocs.Splice

/-!
# Command.Arguments -- the words of a command line

A command line has at most one file and any of the options, each at most once:

* an option with a value takes it after an equals sign, right behind its short name, or as the
  next word, which may not begin with a hyphen unless it is one;
* a switch takes no value;
* after `--` every word is a file.

Words are read from left to right, and the first that does not fit ends the reading. What depends
on several options is looked at last: an expression excludes a file and a document, and a name
belongs to an expression.
-/

namespace InputDocs.Command

set_option autoImplicit false

/-- An option with a value. -/
inductive Setting where
  | format
  | readme
  | startMarker
  | endMarker
  | maxDepth
  | expr
  | name
  deriving DecidableEq, Repr

/-- Why a command line makes no sense. -/
inductive UsageError where
  | unknownOption (word : String)
  | missingValue (setting : Setting)
  | invalidValue (setting : Setting) (value : String)
  | repeated (setting : Setting)
  | repeatedSwitch
  | switchWithValue (value : String)
  | emptyFile
  | extraFile (word : String)
  /-- An expression together with a file or a document. -/
  | exprExcludesFiles
  | nameWithoutExpr
  deriving DecidableEq, Repr

/-- What a command line says. -/
structure Arguments where
  file : Option String := none
  format : Option String := none
  readme : Option String := none
  startMarker : Option String := none
  endMarker : Option String := none
  maxDepth : Option Nat := none
  expr : Option String := none
  name : Option String := none
  rejectDuplicates : Bool := false
  deriving Repr

namespace Arguments

/-- How declarations are documented. -/
def options (arguments : Arguments) : Options where
  maxDepth := arguments.maxDepth.getD TypeExpr.defaultDepth
  policy := if arguments.rejectDuplicates then .reject else .lastWins

/-- The markers of the document. -/
def markers (arguments : Arguments) : String × String :=
  (arguments.startMarker.getD Splice.defaultStart, arguments.endMarker.getD Splice.defaultEnd)

/-! ## Values -/

/-- A depth limit: digits, after a plus if there is one, from one to the greatest depth. -/
def depthOfText (text : String) : Option Nat :=
  let digits := match text.toList with
    | '+' :: rest => rest
    | rest => rest
  if digits = [] ∨ digits.any (fun c => !c.isDigit) then none
  else
    let depth := Text.decimalValue digits
    if 1 ≤ depth ∧ depth ≤ TypeExpr.greatestDepth then some depth else none

/-- A value that is given once. -/
def once (setting : Setting) (old : Option String) (value : String) :
    Except UsageError (Option String) :=
  if old.isSome then .error (.repeated setting) else .ok (some value)

/-- The arguments with the value of one option. -/
def set (arguments : Arguments) (setting : Setting) (value : String) :
    Except UsageError Arguments := do
  match setting with
  | .format => return { arguments with format := ← once setting arguments.format value }
  | .readme =>
    if value = "" then throw (.invalidValue setting value)
    return { arguments with readme := ← once setting arguments.readme value }
  | .startMarker =>
    return { arguments with startMarker := ← once setting arguments.startMarker value }
  | .endMarker => return { arguments with endMarker := ← once setting arguments.endMarker value }
  | .maxDepth =>
    if arguments.maxDepth.isSome then throw (.repeated setting)
    match depthOfText value with
    | some depth => return { arguments with maxDepth := some depth }
    | none => throw (.invalidValue setting value)
  | .expr => return { arguments with expr := ← once setting arguments.expr value }
  | .name => return { arguments with name := ← once setting arguments.name value }

/-- The arguments with a file. -/
def setFile (arguments : Arguments) (word : String) : Except UsageError Arguments :=
  if arguments.file.isSome then .error (.extraFile word)
  else if word = "" then .error .emptyFile
  else .ok { arguments with file := some word }

/-! ## Words -/

/-- The options by their long names. -/
def longNames : List (String × Setting) :=
  [ ("format", .format), ("readme", .readme), ("start-marker", .startMarker),
    ("end-marker", .endMarker), ("max-depth", .maxDepth), ("expr", .expr), ("name", .name) ]

/-- The options by their short names. -/
def shortNames : List (Char × Setting) := [('f', .format), ('r', .readme)]

/-- The long name of the switch. -/
def switchName : String := "reject-duplicate-keys"

/-- What a word asks for. -/
inductive Word where
  /-- From here on every word is a file. -/
  | filesOnly
  | file (word : String)
  | setting (setting : Setting) (value : Option String)
  | switch (value : Option String)
  | help (value : Option String)
  | unknown (word : String)

/-- A word after two hyphens. -/
def longWord (word : String) (text : List Char) : Word :=
  let name := String.ofList (text.takeWhile (· ≠ '='))
  let value := match text.dropWhile (· ≠ '=') with
    | [] => none
    | _ :: rest => some (String.ofList rest)
  match longNames.lookup name with
  | some setting => .setting setting value
  | none =>
    if name = switchName then .switch value
    else if name = "help" then .help value
    else .unknown word

/-- A word after one hyphen. -/
def shortWord (word : String) (c : Char) (rest : List Char) : Word :=
  match shortNames.lookup c with
  | some setting =>
    .setting setting (match rest with
      | [] => none
      | '=' :: value => some (String.ofList value)
      | value => some (String.ofList value))
  | none => if c = 'h' then .help none else .unknown word

/-- What a word asks for. -/
def Word.ofText (word : String) : Word :=
  match word.toList with
  | ['-', '-'] => .filesOnly
  | '-' :: '-' :: text => longWord word text
  | ['-'] => .file word
  | '-' :: c :: rest => shortWord word c rest
  | _ => .file word

/-- Whether a word can be the value of the option before it. -/
def canBeValue (word : String) : Bool := !("-".toList.isPrefixOf word.toList) || word = "-"

/-- A command line read to its end, or cut short by a request for help. -/
inductive Reading where
  | help
  | done (arguments : Arguments)

/-- Read words after `--`. -/
def readFiles (arguments : Arguments) : List String → Except UsageError Reading
  | [] => .ok (.done arguments)
  | word :: rest => do readFiles (← arguments.setFile word) rest

/-- Read words; `waiting` is the option whose value comes next. -/
def readWords (arguments : Arguments) (waiting : Option Setting) :
    List String → Except UsageError Reading
  | [] =>
    match waiting with
    | some setting => .error (.missingValue setting)
    | none => .ok (.done arguments)
  | word :: rest =>
    match waiting with
    | some setting =>
      if canBeValue word then do readWords (← arguments.set setting word) none rest
      else .error (.missingValue setting)
    | none =>
      match Word.ofText word with
      | .filesOnly => readFiles arguments rest
      | .file word => do readWords (← arguments.setFile word) none rest
      | .setting setting (some value) => do readWords (← arguments.set setting value) none rest
      | .setting setting none => readWords arguments (some setting) rest
      | .switch none =>
        if arguments.rejectDuplicates then .error .repeatedSwitch
        else readWords { arguments with rejectDuplicates := true } none rest
      | .help none => .ok .help
      | .switch (some value) | .help (some value) => .error (.switchWithValue value)
      | .unknown word => .error (.unknownOption word)

/-- What several options say together. -/
def check (arguments : Arguments) : Except UsageError Arguments :=
  let files := arguments.file.isSome || arguments.readme.isSome
  if arguments.expr.isSome then
    if files then .error .exprExcludesFiles else .ok arguments
  else if arguments.name.isSome && !files then .error .nameWithoutExpr
  else .ok arguments

/-- Read a command line. -/
def parse (words : List String) : Except UsageError Reading := do
  match ← readWords {} none words with
  | .help => return .help
  | .done arguments => return .done (← arguments.check)

end Arguments

end InputDocs.Command
