import InputDocs.Token.Scan
import InputDocs.TypeExpr

/-!
# TypeExpr.Parse -- reading type expressions from tokens

The reader takes one token at a time and keeps what it still owes: a stack of open calls and
object literals, innermost first, and inside the innermost the part that must come next. There is
no look-ahead. A word that may turn out to be the name of a call waits as `State.word` until the
next token decides.

The height of the stack is the nesting level, so the depth limit needs no counter: a call or an
object literal may open only while fewer than the limit are open (`State.value`, `State.word`).
A token that cannot come next stops the reader at once, and the end of the tokens is an error
unless the expression is complete.
-/

namespace InputDocs

set_option autoImplicit false

/-- What the reader waits for, as messages name it. -/
inductive Expected where
  | typeExpression
  | commaOrClose
  | propertyOrClose
  | propertyKey
  | equalsSign
  | endOfInput
  deriving DecidableEq, Repr

/-- The wording of an expectation. -/
def Expected.text : Expected → String
  | typeExpression => "type expression"
  | commaOrClose => "`,` or `)`"
  | propertyOrClose => "property or `\x7d`"
  | propertyKey => "property key"
  | equalsSign => "`=`"
  | endOfInput => "end of input"

/-- Why a text is no type expression. -/
inductive ParseError where
  | lexical (position : Position) (fault : Token.Fault)
  /-- A token, or the end of the input, stands where something else is expected. -/
  | unexpected (position : Position) (expected : Expected) (found : Option Token)
  | tooDeep (position : Position) (limit : Nat)
  deriving DecidableEq, Repr

namespace ParseError

/-- The place of the error. -/
def position : ParseError → Position
  | lexical position _ | unexpected position _ _ | tooDeep position _ => position

/-- The wording of the error, with its place in front. -/
def message : ParseError → String
  | lexical position fault => position.text ++ ": " ++ fault.message
  | unexpected position expected found =>
    position.text ++ ": expected " ++ expected.text ++ ", found " ++
      (found.map Token.describe).getD "end of input"
  | tooDeep position limit =>
    position.text ++ ": nesting deeper than " ++ toString limit ++ " levels"

end ParseError

namespace TypeExpr

/-! ## The state of the reader -/

/-- An open call or object literal that waits for a value. Arguments and properties read so far
are kept in reverse. -/
inductive Frame where
  | call (name : String) (arguments : List TypeExpr)
  | property (properties : List (Property TypeExpr)) (comment : Option Comment) (key : String)

/-- The states in which an expression has just been completed. -/
inductive Settled where
  | finished (root : TypeExpr)
  /-- After an argument: a comma or the closing parenthesis. -/
  | argument (name : String) (arguments : List TypeExpr) (stack : List Frame)
  /-- Between properties: a property or the closing brace. -/
  | between (properties : List (Property TypeExpr)) (stack : List Frame)

/-- What must come next. -/
inductive State where
  | settled (after : Settled)
  | value (stack : List Frame)
  /-- A word was read; a parenthesis makes it the name of a call. -/
  | word (name : String) (position : Position) (stack : List Frame)
  /-- After the opening parenthesis of a call. -/
  | firstArgument (name : String) (stack : List Frame)
  /-- After `///` lines, themselves in reverse: another of them or the key. -/
  | commentLines (lines : List String) (properties : List (Property TypeExpr))
      (stack : List Frame)
  | key (comment : Comment) (properties : List (Property TypeExpr)) (stack : List Frame)
  | equals (comment : Option Comment) (key : String) (properties : List (Property TypeExpr))
      (stack : List Frame)

/-- The state after a complete expression under the open calls and object literals. -/
def settle (root : TypeExpr) : List Frame → Settled
  | [] => .finished root
  | .call name arguments :: stack => .argument name (root :: arguments) stack
  | .property properties comment key :: stack => .between (⟨comment, key, root⟩ :: properties) stack

/-! ## One token -/

/-- Open a call or an object literal under `stack`, if the limit allows one more. -/
def enter (limit : Nat) (stack : List Frame) (position : Position) (opened : State) :
    Except ParseError State :=
  if stack.length < limit then .ok opened else .error (.tooDeep position limit)

/-- The step where an expression must begin. -/
def beginValue (limit : Nat) (stack : List Frame) : Token.Placed → Except ParseError State
  | ⟨.word name, position⟩ => .ok (.word name position stack)
  | ⟨.openBrace, position⟩ => enter limit stack position (.settled (.between [] stack))
  | ⟨.number text, _⟩ => .ok (.settled (settle (.number text) stack))
  | ⟨.quoted text, _⟩ => .ok (.settled (settle (.quoted text) stack))
  | ⟨token, position⟩ => .error (.unexpected position .typeExpression (some token))

/-- The step after a complete expression. -/
def Settled.step : Settled → Token.Placed → Except ParseError State
  | .finished _, ⟨token, position⟩ => .error (.unexpected position .endOfInput (some token))
  | .argument name arguments stack, ⟨.comma, _⟩ => .ok (.value (.call name arguments :: stack))
  | .argument name arguments stack, ⟨.closeParen, _⟩ =>
    .ok (.settled (settle (.call name arguments.reverse) stack))
  | .argument _ _ _, ⟨token, position⟩ =>
    .error (.unexpected position .commaOrClose (some token))
  | .between properties stack, ⟨.closeBrace, _⟩ =>
    .ok (.settled (settle (.object properties.reverse) stack))
  | .between properties stack, ⟨.docBlock text, _⟩ => .ok (.key (.block text) properties stack)
  | .between properties stack, ⟨.docLine text, _⟩ => .ok (.commentLines [text] properties stack)
  | .between properties stack, ⟨.word name, _⟩ => .ok (.equals none name properties stack)
  | .between _ _, ⟨token, position⟩ => .error (.unexpected position .propertyKey (some token))

/-- The step of the reader. -/
def State.step (limit : Nat) : State → Token.Placed → Except ParseError State
  | .settled after, token => after.step token
  | .value stack, token => beginValue limit stack token
  | .word name position stack, ⟨.openParen, _⟩ =>
    enter limit stack position (.firstArgument name stack)
  | .word name _ stack, token => (settle (.word name) stack).step token
  | .firstArgument name stack, ⟨.closeParen, _⟩ =>
    .ok (.settled (settle (.call name []) stack))
  | .firstArgument name stack, token => beginValue limit (.call name [] :: stack) token
  | .commentLines lines properties stack, ⟨.docLine text, _⟩ =>
    .ok (.commentLines (text :: lines) properties stack)
  | .commentLines lines properties stack, ⟨.word name, _⟩ =>
    .ok (.equals (some (.lines lines.reverse)) name properties stack)
  | .commentLines _ _ _, ⟨token, position⟩ =>
    .error (.unexpected position .propertyKey (some token))
  | .key comment properties stack, ⟨.word name, _⟩ =>
    .ok (.equals (some comment) name properties stack)
  | .key _ _ _, ⟨token, position⟩ => .error (.unexpected position .propertyKey (some token))
  | .equals comment name properties stack, ⟨.equals, _⟩ =>
    .ok (.value (.property properties comment name :: stack))
  | .equals _ _ _ _, ⟨token, position⟩ => .error (.unexpected position .equalsSign (some token))

/-! ## The end of the tokens -/

/-- What is owed at the end of the tokens after a complete expression. -/
def Settled.finish (place : Position) : Settled → Except ParseError TypeExpr
  | .finished root => .ok root
  | .argument _ _ _ => .error (.unexpected place .commaOrClose none)
  | .between _ _ => .error (.unexpected place .propertyOrClose none)

/-- The expression read, or what is owed at the end of the tokens. -/
def State.finish (place : Position) : State → Except ParseError TypeExpr
  | .settled after => after.finish place
  | .word name _ stack => (settle (.word name) stack).finish place
  | .value _ | .firstArgument _ _ => .error (.unexpected place .typeExpression none)
  | .commentLines _ _ _ | .key _ _ _ => .error (.unexpected place .propertyKey none)
  | .equals _ _ _ _ => .error (.unexpected place .equalsSign none)

/-- Read the tokens that are left and then the end of the text, which is at `place`. -/
def State.run (limit : Nat) (place : Position) (state : State) :
    List Token.Placed → Except ParseError TypeExpr
  | [] => state.finish place
  | token :: rest => do (← state.step limit token).run limit place rest

/-! ## Whole expressions -/

/-- The depth limit in force where none is asked for. -/
def defaultDepth : Nat := 64

/-- The greatest depth limit; a higher one counts as this. -/
def greatestDepth : Nat := 256

/-- Read tokens as one expression with at most `maxDepth` nested calls and object literals;
`place` is where the text ends. -/
def ofTokens (maxDepth : Nat) (place : Position) (tokens : List Token.Placed) :
    Except ParseError TypeExpr :=
  (State.value []).run (min maxDepth greatestDepth) place tokens

/-- Read a whole text as one expression. A text that is no sequence of tokens is reported as
such, whatever its tokens before that place say. -/
def parse (maxDepth : Nat) (text : String) : Except ParseError TypeExpr :=
  match Token.tokenize text with
  | .error error => .error (.lexical error.position error.fault)
  | .ok tokens => ofTokens maxDepth (.after text.toList) tokens

end TypeExpr

end InputDocs
