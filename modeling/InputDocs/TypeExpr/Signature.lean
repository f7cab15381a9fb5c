import InputDocs.TypeExpr

/-!
# TypeExpr.Signature -- the one-line form of an expression

A signature shows an expression on one line with one spacing: arguments are parted by a comma and
a blank, leaves keep their text. An object literal has no signature, and among arguments it is
left out (`signature_object`, `signatures`); the calls around it stay.

`TypeExpr.pruned` leaves the same arguments out of the expression itself, so that a signature is
the signature of an expression without object literals (`signature_pruned`).
-/

namespace InputDocs.TypeExpr

set_option autoImplicit false

mutual

/-- The one-line form of an expression; an object literal has none. -/
def signature : TypeExpr → Option String
  | call name arguments => some (name ++ "(" ++ ", ".intercalate (signatures arguments) ++ ")")
  | object _ => none
  | word name => some name
  | number text => some text
  | quoted text => some text

/-- The one-line forms of the arguments that have one. -/
def signatures : List TypeExpr → List String
  | [] => []
  | first :: rest =>
    match first.signature with
    | some text => text :: signatures rest
    | none => signatures rest

end

mutual

/-- The expression without the object literals among the arguments of its calls. -/
def pruned : TypeExpr → TypeExpr
  | call name arguments => call name (prunedArguments arguments)
  | other => other

/-- The arguments that are no object literals, themselves pruned. -/
def prunedArguments : List TypeExpr → List TypeExpr
  | [] => []
  | object _ :: rest => prunedArguments rest
  | first :: rest => first.pruned :: prunedArguments rest

end

@[simp] theorem signature_object (properties : List (Property TypeExpr)) :
    (object properties).signature = none := by
  simp [signature]

mutual

/-- Leaving out what has no signature does not change the signature. -/
theorem signature_pruned (expr : TypeExpr) : expr.pruned.signature = expr.signature := by
  cases expr with
  | call name arguments => simp only [pruned, signature, signatures_prunedArguments arguments]
  | _ => simp [pruned]

theorem signatures_prunedArguments (arguments : List TypeExpr) :
    signatures (prunedArguments arguments) = signatures arguments := by
  cases arguments with
  | nil => simp [prunedArguments]
  | cons first rest =>
    cases first with
    | object properties =>
      simp only [prunedArguments, signatures, signature, signatures_prunedArguments rest]
    | _ =>
      simp only [prunedArguments, signatures, signature_pruned, signatures_prunedArguments rest]

end

end InputDocs.TypeExpr
