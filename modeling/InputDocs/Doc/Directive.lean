import InputDocs.Unicode.Blank

/-!
# Doc.Directive -- `@name content` lines

A directive has a name and a content, which is trimmed. Seven names are known. Three take any
content as it stands (`deprecated`, `see`, `since`), `enum` takes choices between bars, and three
have a grammar of their own:

* `example` and `link` take a label in double quotes, white space and a target on one line;
  `link` also takes an identifier in braces instead of the quotes;
* `regex` takes a pattern between slashes and then sample words, where quotes group words and
  are dropped.

A known name whose content does not fit is malformed and is shown nowhere. An unknown name is
kept with its content (`Directive.isShown`).

Which patterns can be used is for a regex engine to say. The engine is a parameter
(`PatternEngine`) of everything that reads documentation, and only the program and its sessions
choose one.
-/

namespace InputDocs

set_option autoImplicit false

/-- A regex engine, as far as a directive asks it. As an inferred model it is carried along
without standing in every call. -/
class PatternEngine where
  /-- Whether a source is a pattern that the engine takes. -/
  compiles : List Char → Bool

/-- The engine that takes every source. -/
@[reducible] def PatternEngine.lenient : PatternEngine := ⟨fun _ => true⟩

/-- The directives whose content has a grammar of its own. -/
inductive Grammar where
  | sample
  | link
  | pattern
  deriving DecidableEq, Repr

/-- How a link names its target. -/
inductive LinkStyle where
  /-- A label in quotes, shown in place. -/
  | named
  /-- An identifier in braces, collected as a reference. -/
  | reference
  deriving DecidableEq, Repr

/-- What a directive says. -/
inductive Meaning where
  | unsupported
  | malformed (grammar : Grammar)
  | deprecated (note : String)
  | see (target : String)
  | since (version : String)
  | choices (values : List String)
  | sample (name target : String)
  | link (style : LinkStyle) (name target : String)
  | pattern (source : String) (samples : List String)
  deriving DecidableEq, Repr

namespace Meaning

/-- The name of the kind of directive. -/
def kind : Meaning → String
  | unsupported => "unsupported"
  | deprecated _ => "deprecated"
  | see _ => "see"
  | since _ => "since"
  | choices _ => "enum"
  | malformed .sample | sample _ _ => "example"
  | malformed .link | link _ _ _ => "link"
  | malformed .pattern | pattern _ _ => "regex"

/-- The parts of the content, in order. -/
def arguments : Meaning → List String
  | unsupported | malformed _ => []
  | deprecated text | see text | since text => [text]
  | choices values => values
  | sample name target | link _ name target => [name, target]
  | pattern source samples => source :: samples

/-- Whether the name is known and the content fits it. -/
def isValid : Meaning → Bool
  | unsupported | malformed _ => false
  | _ => true

/-- The style of a link. -/
def linkStyle : Meaning → Option LinkStyle
  | link style _ _ => some style
  | _ => none

end Meaning

/-- A directive line. -/
structure Directive where
  name : String
  /-- What follows the name, trimmed. -/
  content : String
  meaning : Meaning
  deriving DecidableEq, Repr

namespace Directive

open Unicode (isBlank trim)

/-! ## Grammars -/

/-- A nonempty label up to `close`, white space, and a target that is the rest of the line. -/
def splitLabel (close : Char) (text : List Char) : Option (List Char × List Char) :=
  match text.span (· ≠ close) with
  | (label, _ :: gap :: rest) =>
    let target := rest.dropWhile isBlank
    if label ≠ [] ∧ isBlank gap ∧ target ≠ [] ∧ '\n' ∉ target then some (label, target) else none
  | _ => none

/-- The content of `example`. -/
def readSample : List Char → Meaning
  | '"' :: rest =>
    match splitLabel '"' rest with
    | some (name, target) => .sample (String.ofList name) (String.ofList target)
    | none => .malformed .sample
  | _ => .malformed .sample

/-- The content of `link`. -/
def readLink : List Char → Meaning
  | '"' :: rest =>
    match splitLabel '"' rest with
    | some (name, target) => .link .named (String.ofList name) (String.ofList target)
    | none => .malformed .link
  | '\x7b' :: rest =>
    match splitLabel '\x7d' rest with
    | some (name, target) => .link .reference (String.ofList name) (String.ofList target)
    | none => .malformed .link
  | _ => .malformed .link

/-- The content of `enum`: what stands between bars, trimmed, the empty choices left out. -/
def readChoices (content : List Char) : Meaning :=
  .choices ((((content.splitOn '|').map trim).filter (· ≠ [])).map String.ofList)

/-- Split at the first slash that no backslash escapes; `escaped` says whether the character
before is a backslash that escapes this one. -/
def splitPattern (escaped : Bool) : List Char → Option (List Char × List Char)
  | [] => none
  | c :: rest =>
    if c = '/' ∧ !escaped then some ([], rest)
    else (splitPattern (c = '\\' && !escaped) rest).map fun (source, more) => (c :: source, more)

/-- Words parted by white space. A quote opens or closes a stretch in which white space is part
of the word, and makes a word even of nothing. `word` is the word that has begun, in reverse. -/
def splitWords (quoted : Bool) (word : Option (List Char)) : List Char → List (List Char)
  | [] => (word.map List.reverse).toList
  | c :: rest =>
    if c = '"' then splitWords (!quoted) (some (word.getD [])) rest
    else if isBlank c ∧ !quoted then
      (word.map List.reverse).toList ++ splitWords false none rest
    else splitWords quoted (some (c :: word.getD [])) rest

/-- The content of `regex`, where `compiles` says which patterns can be used. -/
def readPattern (compiles : List Char → Bool) : List Char → Meaning
  | '/' :: rest =>
    match splitPattern false rest with
    | some (source, more) =>
      if compiles source then
        .pattern (String.ofList source) ((splitWords false none more).map String.ofList)
      else .malformed .pattern
    | none => .malformed .pattern
  | _ => .malformed .pattern

/-- What a directive with this name says by a trimmed content. -/
def read (compiles : List Char → Bool) (name : String) (content : List Char) : Meaning :=
  if name = "link" then readLink content
  else if name = "example" then readSample content
  else if name = "enum" then readChoices content
  else if name = "regex" then readPattern compiles content
  else if name = "deprecated" then .deprecated (String.ofList content)
  else if name = "see" then .see (String.ofList content)
  else if name = "since" then .since (String.ofList content)
  else .unsupported

/-! ## Directives -/

/-- The directive with a name and a content, whose ends are trimmed first. -/
def ofContent [engine : PatternEngine] (name : String) (content : List Char) : Directive :=
  { name, content := String.ofList (trim content),
    meaning := read engine.compiles name (trim content) }

/-- Whether the directive is shown: a known one if it is valid, an unknown one always. -/
def isShown (directive : Directive) : Bool :=
  directive.meaning.isValid || directive.meaning = .unsupported

end Directive

end InputDocs
