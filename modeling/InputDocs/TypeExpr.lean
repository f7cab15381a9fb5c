import InputDocs.Token

/-!
# TypeExpr -- type expressions

A type expression is a call such as `optional(string, "small")`, an object literal, or a leaf: a
word, a number or a string. An object literal holds properties `key = value`, each with the
comment written before it, if any. A comment is a run of `///` lines or one `/** */` block.

`TypeExpr.tokens` writes an expression as the tokens it is read from and `TypeExpr.depth` counts
the calls and object literals around its innermost leaf.
-/

namespace InputDocs

set_option autoImplicit false

/-- The comment before a property, with its marks. -/
inductive Comment where
  /-- Consecutive `///` lines. -/
  | lines (lines : List String)
  /-- One `/** */` comment. -/
  | block (text : String)
  deriving DecidableEq, Repr

/-- A property of an object literal, over the type of its values. -/
structure Property (α : Type) where
  comment : Option Comment
  key : String
  value : α
  deriving Repr

/-- A type expression. -/
inductive TypeExpr where
  | call (name : String) (arguments : List TypeExpr)
  | object (properties : List (Property TypeExpr))
  | word (name : String)
  | number (text : String)
  /-- A string with its quotes and escapes. -/
  | quoted (text : String)
  deriving Repr

/-- The tokens of a comment. -/
def Comment.tokens : Comment → List Token
  | .lines texts => texts.map .docLine
  | .block text => [.docBlock text]

namespace TypeExpr

mutual

/-- The tokens an expression is read from. -/
def tokens : TypeExpr → List Token
  | call name arguments =>
    .word name :: .openParen :: (argumentTokens arguments ++ [.closeParen])
  | object properties => .openBrace :: (propertyTokens properties ++ [.closeBrace])
  | word name => [.word name]
  | number text => [.number text]
  | quoted text => [.quoted text]

/-- The tokens of arguments, with commas between them. -/
def argumentTokens : List TypeExpr → List Token
  | [] => []
  | [only] => only.tokens
  | first :: rest => first.tokens ++ .comma :: argumentTokens rest

/-- The tokens of properties, one after the other. -/
def propertyTokens : List (Property TypeExpr) → List Token
  | [] => []
  | ⟨comment, key, value⟩ :: rest =>
    (comment.map Comment.tokens).getD [] ++ .word key :: .equals :: value.tokens ++
      propertyTokens rest

end

mutual

/-- How many calls and object literals enclose the innermost leaf. -/
def depth : TypeExpr → Nat
  | call _ arguments => 1 + argumentDepth arguments
  | object properties => 1 + propertyDepth properties
  | word _ | number _ | quoted _ => 0

/-- The greatest depth among arguments. -/
def argumentDepth : List TypeExpr → Nat
  | [] => 0
  | first :: rest => max first.depth (argumentDepth rest)

/-- The greatest depth among values of properties. -/
def propertyDepth : List (Property TypeExpr) → Nat
  | [] => 0
  | ⟨_, _, value⟩ :: rest => max value.depth (propertyDepth rest)

end

end TypeExpr

end InputDocs
