import InputDocs.Position

/-!
# Token -- the words of the type language

A token keeps the text it was read from: comments with their marks, strings with their quotes and
escapes, so that the text of a token is what stands in the source (`Token.text`). `describe` is
how a message names a token it did not expect.
-/

namespace InputDocs

set_option autoImplicit false

/-- A word of the type language. -/
inductive Token where
  /-- A comment from `/**` to `*/`. -/
  | docBlock (text : String)
  /-- A comment from `///` to the end of its line. -/
  | docLine (text : String)
  /-- A string in double quotes, quotes and escapes included. -/
  | quoted (text : String)
  | number (text : String)
  | word (name : String)
  | openParen
  | closeParen
  | openBrace
  | closeBrace
  | equals
  | comma
  deriving DecidableEq, Repr

namespace Token

/-- The source text of the token. -/
def text : Token → String
  | docBlock text | docLine text | quoted text | number text => text
  | word name => name
  | openParen => "("
  | closeParen => ")"
  | openBrace => "\x7b"
  | closeBrace => "\x7d"
  | equals => "="
  | comma => ","

/-- The token as a message names it. -/
def describe : Token → String
  | docBlock _ => "doc block comment"
  | docLine _ => "doc line comment"
  | quoted text => "string " ++ text
  | number text => "number `" ++ text ++ "`"
  | word name => "identifier `" ++ name ++ "`"
  | mark => "`" ++ mark.text ++ "`"

/-- A token with the place of its first character. -/
structure Placed where
  token : Token
  position : Position
  deriving DecidableEq, Repr

end Token

end InputDocs
