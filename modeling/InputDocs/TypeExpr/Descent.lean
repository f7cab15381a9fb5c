import InputDocs.TypeExpr.Parse

/-!
# TypeExpr.Descent -- reading type expressions by recursive descent

One function for each part of an expression takes what it needs off the front of the tokens and
calls the others for the parts inside. A word is a call if a parenthesis can be seen after it. How
deep a call or an object literal stands is counted: the counter goes up on the way in, where the
limit is checked, and down on the way out.

Each result carries that it took at least one token (`Parsed.shorter`), and so the recursion ends.
-/

namespace InputDocs.TypeExpr.Descent

set_option autoImplicit false

/-- What was read off the front of `tokens`, what comes after it, and the counter there. -/
structure Parsed (α : Type) (tokens : List Token.Placed) where
  value : α
  rest : List Token.Placed
  level : Nat
  shorter : rest.length < tokens.length

namespace Parsed

variable {α : Type} {inner tokens : List Token.Placed}

/-- The same, read off tokens that had others in front. -/
def after (parsed : Parsed α inner) (shorter : inner.length < tokens.length) : Parsed α tokens where
  value := parsed.value
  rest := parsed.rest
  level := parsed.level
  shorter := Nat.lt_trans parsed.shorter shorter

theorem shorter_of_rest (parsed : Parsed α tokens) {token : Token.Placed}
    {rest : List Token.Placed} (next : parsed.rest = token :: rest) :
    rest.length < tokens.length := by
  have shorter := parsed.shorter
  rw [next] at shorter
  exact Nat.lt_of_succ_lt shorter

/-- On the way out of a call or an object literal. -/
def leave (parsed : Parsed α tokens) : Parsed α tokens :=
  { parsed with level := parsed.level - 1 }

end Parsed

/-- On the way into a call or an object literal, if the limit allows one more. -/
def enter (limit level : Nat) (position : Position) : Except ParseError Nat :=
  if limit ≤ level then .error (.tooDeep position limit) else .ok (level + 1)

/-- The next token, or the end of the text at `place`, where something else is expected. -/
def unexpected (place : Position) (expected : Expected) : List Token.Placed → ParseError
  | [] => .unexpected place expected none
  | ⟨token, position⟩ :: _ => .unexpected position expected (some token)

/-- The `///` lines that come next, and the tokens after them. -/
def commentLines : List Token.Placed → List String × List Token.Placed
  | ⟨.docLine text, _⟩ :: rest =>
    let (lines, rest) := commentLines rest
    (text :: lines, rest)
  | tokens => ([], tokens)

/-- The comment that comes next, if one does, and the tokens after it. -/
def comment : List Token.Placed → Option Comment × List Token.Placed
  | ⟨.docBlock text, _⟩ :: rest => (some (.block text), rest)
  | ⟨.docLine text, _⟩ :: rest =>
    let (lines, rest) := commentLines rest
    (some (.lines (text :: lines)), rest)
  | tokens => (none, tokens)

theorem length_commentLines_le (tokens : List Token.Placed) :
    (commentLines tokens).2.length ≤ tokens.length := by
  fun_induction commentLines tokens with
  | case1 text position rest lines after same ih =>
      rw [same] at ih
      exact Nat.le_succ_of_le ih
  | case2 => exact Nat.le_refl _

theorem length_comment_le (tokens : List Token.Placed) :
    (comment tokens).2.length ≤ tokens.length := by
  fun_cases comment tokens with
  | case1 => exact Nat.le_succ _
  | case2 text position rest lines after same =>
      have shorter := length_commentLines_le rest
      rw [same] at shorter
      exact Nat.le_succ_of_le shorter
  | case3 => exact Nat.le_refl _

theorem length_of_comment {tokens rest : List Token.Placed} {found : Option Comment}
    {first second : Token.Placed} (commented : comment tokens = (found, first :: second :: rest)) :
    rest.length < tokens.length := by
  have shorter := length_comment_le tokens
  rw [commented] at shorter
  exact Nat.lt_of_succ_lt shorter

variable (limit : Nat) (place : Position)

mutual

/-- Read one expression. -/
def dataType (level : Nat) (tokens : List Token.Placed) :
    Except ParseError (Parsed TypeExpr tokens) :=
  match tokens with
  | ⟨.word name, position⟩ :: rest =>
    match rest with
    | ⟨.openParen, _⟩ :: inside => do
      let level ← enter limit level position
      let call ← callArguments level name inside
      return call.leave.after (Nat.lt_succ_of_lt (Nat.lt_succ_self _))
    | rest => .ok ⟨.word name, rest, level, Nat.lt_succ_self _⟩
  | ⟨.openBrace, position⟩ :: inside => do
    let level ← enter limit level position
    let literal ← objectBody level [] inside
    return literal.leave.after (Nat.lt_succ_self _)
  | ⟨.number text, _⟩ :: rest => .ok ⟨.number text, rest, level, Nat.lt_succ_self _⟩
  | ⟨.quoted text, _⟩ :: rest => .ok ⟨.quoted text, rest, level, Nat.lt_succ_self _⟩
  | tokens => .error (unexpected place .typeExpression tokens)
termination_by (tokens.length, 0)

/-- Read the arguments of a call after its parenthesis, through the closing one. -/
def callArguments (level : Nat) (name : String) (tokens : List Token.Placed) :
    Except ParseError (Parsed TypeExpr tokens) :=
  match tokens with
  | ⟨.closeParen, _⟩ :: rest => .ok ⟨.call name [], rest, level, Nat.lt_succ_self _⟩
  | tokens => moreArguments level name [] tokens
termination_by (tokens.length, 2)

/-- Read an argument of a call and all that follow, through the closing parenthesis. -/
def moreArguments (level : Nat) (name : String) (arguments : List TypeExpr)
    (tokens : List Token.Placed) : Except ParseError (Parsed TypeExpr tokens) := do
  let argument ← dataType level tokens
  match next : argument.rest with
  | ⟨.comma, _⟩ :: rest => do
    let call ← moreArguments argument.level name (arguments ++ [argument.value]) rest
    return call.after (argument.shorter_of_rest next)
  | ⟨.closeParen, _⟩ :: rest =>
    .ok ⟨.call name (arguments ++ [argument.value]), rest, argument.level,
      argument.shorter_of_rest next⟩
  | rest => .error (unexpected place .commaOrClose rest)
termination_by (tokens.length, 1)
decreasing_by
  · exact Prod.Lex.right _ Nat.zero_lt_one
  · exact Prod.Lex.left _ _ (argument.shorter_of_rest next)

/-- Read properties after the opening brace, through the closing one. -/
def objectBody (level : Nat) (properties : List (Property TypeExpr))
    (tokens : List Token.Placed) : Except ParseError (Parsed TypeExpr tokens) :=
  match tokens with
  | ⟨.closeBrace, _⟩ :: rest => .ok ⟨.object properties, rest, level, Nat.lt_succ_self _⟩
  | [] => .error (unexpected place .propertyOrClose [])
  | token :: rest => do
    let next ← property level (token :: rest)
    let literal ← objectBody next.level (properties ++ [next.value]) next.rest
    return literal.after next.shorter
termination_by (tokens.length, 2)
decreasing_by
  · exact Prod.Lex.right _ Nat.one_lt_two
  · exact Prod.Lex.left _ _ next.shorter

/-- Read one property with the comment before it. -/
def property (level : Nat) (tokens : List Token.Placed) :
    Except ParseError (Parsed (Property TypeExpr) tokens) :=
  match commented : comment tokens with
  | (comment, ⟨.word key, _⟩ :: ⟨.equals, _⟩ :: inside) => do
    let value ← dataType level inside
    return ⟨⟨comment, key, value.value⟩, value.rest, value.level,
      Nat.lt_trans value.shorter (length_of_comment commented)⟩
  | (_, ⟨.word _, _⟩ :: rest) => .error (unexpected place .equalsSign rest)
  | (_, rest) => .error (unexpected place .propertyKey rest)
termination_by (tokens.length, 1)
decreasing_by exact Prod.Lex.left _ _ (length_of_comment commented)

end

/-- Read tokens as one expression with at most `maxDepth` nested calls and object literals. -/
def ofTokens (maxDepth : Nat) (place : Position) (tokens : List Token.Placed) :
    Except ParseError TypeExpr := do
  let root ← dataType (min maxDepth greatestDepth) place 0 tokens
  match root.rest with
  | [] => return root.value
  | rest => .error (unexpected place .endOfInput rest)

end InputDocs.TypeExpr.Descent
