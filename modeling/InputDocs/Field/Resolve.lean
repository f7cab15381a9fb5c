import InputDocs.Event
import InputDocs.Field
import InputDocs.TypeExpr.Signature

/-!
# Field.Resolve -- documenting a declaration

A property becomes a field in three steps. First the calls of `optional` around its type are
peeled off through their first arguments; the second argument of the outermost call that has one
is the default. Then an object literal that is the whole type, alone, in `object(...)` or in a
`map` or `list` of one of these, is expanded: its properties become the fields of a nested type
(`TypeExpr.expansion?`). Any other type is shown by its signature.

A key that an object literal repeats either replaces the earlier property in its place or is an
error, as the policy says.

A declaration as a whole is documented when it is a call of `object`, `optional`, `map` or `list`
(`document`).
-/

namespace InputDocs

set_option autoImplicit false

/-- What to do with a key that an object literal repeats. -/
inductive DuplicatePolicy where
  /-- The later property takes the place of the earlier one. -/
  | lastWins
  | reject
  deriving DecidableEq, Repr

/-- How declarations are documented. -/
structure Options where
  maxDepth : Nat := TypeExpr.defaultDepth
  policy : DuplicatePolicy := .lastWins
  deriving DecidableEq, Repr

namespace TypeExpr

/-! ## Shapes of types -/

/-- The arguments of a call of `optional`. -/
def optional? : TypeExpr → Option (List TypeExpr)
  | call name arguments => if name = "optional" then some arguments else none
  | _ => none

/-- The properties of an object literal, alone or as the only argument of `object`. -/
def literal? : TypeExpr → Option (List (Property TypeExpr))
  | object properties => some properties
  | call name [object properties] => if name = "object" then some properties else none
  | _ => none

/-- The properties to expand and the collection around them. -/
def expansion? (expr : TypeExpr) : Option (Collection × List (Property TypeExpr)) :=
  match expr.literal? with
  | some properties => some (.none, properties)
  | none =>
    match expr with
    | call name [inner] =>
      if Collection.ofCall name = .none then none
      else inner.literal?.map fun properties => (Collection.ofCall name, properties)
    | _ => none

theorem sizeOf_of_optional? {expr inner : TypeExpr} {rest : List TypeExpr}
    (h : expr.optional? = some (inner :: rest)) : sizeOf inner < sizeOf expr := by
  unfold optional? at h
  split at h
  · split at h
    · cases h
      simp only [call.sizeOf_spec, List.cons.sizeOf_spec]
      omega
    · cases h
  · cases h

theorem sizeOf_of_literal? {expr : TypeExpr} {properties : List (Property TypeExpr)}
    (h : expr.literal? = some properties) : sizeOf properties < sizeOf expr := by
  unfold literal? at h
  split at h
  · cases h
    simp only [object.sizeOf_spec]
    omega
  · split at h
    · cases h
      simp only [call.sizeOf_spec, List.cons.sizeOf_spec, object.sizeOf_spec]
      omega
    · cases h
  · cases h

theorem sizeOf_of_expansion? {expr : TypeExpr} {collection : Collection}
    {properties : List (Property TypeExpr)} (h : expr.expansion? = some (collection, properties)) :
    sizeOf properties < sizeOf expr := by
  unfold expansion? at h
  split at h
  · rename_i found
    cases h
    exact sizeOf_of_literal? found
  · split at h
    · split at h
      · cases h
      · rename_i inner _ _
        obtain ⟨found, same, rest⟩ := Option.map_eq_some_iff.1 h
        cases rest
        have smaller := sizeOf_of_literal? same
        simp only [call.sizeOf_spec, List.cons.sizeOf_spec]
        omega
    · cases h

end TypeExpr

namespace Field

open TypeExpr (optional? expansion?)

/-! ## Resolution -/

/-- The text of a default. An object literal has one only if it is empty. -/
def defaultText : TypeExpr → Traced DuplicateKey (Option String)
  | .object [] => return some "\x7b\x7d"
  | .object _ => do
    Traced.emit .literalDefault
    return none
  | other => return other.signature

/-- Put a field in the place of the one with its name. -/
def replace (field : Field) (fields : List Field) : List Field :=
  fields.map fun old => if old.name = field.name then field else old

variable [PatternEngine]

mutual

/-- The field that a property declares. -/
def resolve (policy : DuplicatePolicy) (property : Property TypeExpr) :
    Traced DuplicateKey Field := do
  let (presence, type) ← resolveType policy property.key property.value
  return {
    name := property.key
    doc := (property.comment.map Doc.ofComment).getD .empty
    type
    presence }
termination_by sizeOf property
decreasing_by
  cases property
  simp only [Property.mk.sizeOf_spec]
  omega

/-- The presence and the type that an expression gives to the field `name`. -/
def resolveType (policy : DuplicatePolicy) (name : String) (expr : TypeExpr) :
    Traced DuplicateKey (Presence × FieldType Field) :=
  match _peeled : expr.optional? with
  | some [] => do
    Traced.emit (.optionalWithoutType name)
    return (.optional none, .plain "")
  | some (inner :: others) => do
    let (presence, type) ← resolveType policy name inner
    let default ← match others with
      | [] => pure presence.default?
      | default :: _ => defaultText default
    if 1 < others.length then Traced.emit (.extraArguments name (others.length + 1))
    return (.optional default, type)
  | none =>
    match _expanded : expr.expansion? with
    | some (collection, []) =>
      return (.required, .plain (collection.wrap (objectSignature "\x7b\x7d")))
    | some (collection, first :: rest) => do
      let children ← resolveAll policy [] (first :: rest)
      return (.required, .nested collection (typeName name) children)
    | none => return (.required, .plain (expr.signature.getD ""))
termination_by sizeOf expr
decreasing_by
  · exact TypeExpr.sizeOf_of_optional? _peeled
  · exact TypeExpr.sizeOf_of_expansion? _expanded

/-- The fields of an object literal, after the fields that earlier properties declared. -/
def resolveAll (policy : DuplicatePolicy) (fields : List Field) :
    List (Property TypeExpr) → Traced DuplicateKey (List Field)
  | [] => return fields
  | property :: rest => do
    let field ← resolve policy property
    if fields.any fun old => old.name = property.key then
      match policy with
      | .lastWins =>
        Traced.emit (.keyReplaced property.key)
        resolveAll policy (replace field fields) rest
      | .reject => Traced.fail ⟨property.key⟩
    else resolveAll policy (fields ++ [field]) rest
termination_by properties => sizeOf properties

end

/-! ## Declarations -/

/-- The calls that make a declaration object-shaped. -/
def groupCalls : List String := ["object", "optional", "map", "list"]

/-- The collection that a call makes. -/
def callCollection : TypeExpr → Collection
  | .call name _ => Collection.ofCall name
  | _ => .none

/-- The collection a declaration is written as, looking through one `optional`. -/
def outerCollection (root : TypeExpr) : Collection :=
  match root.optional? with
  | some (inner :: _) => callCollection inner
  | some [] => .none
  | none => callCollection root

/-- A declaration as a group, or nothing if it is not object-shaped. -/
def resolveGroup (policy : DuplicatePolicy) (root : TypeExpr) (name : String) :
    Traced DuplicateKey (Option Group) :=
  match root with
  | .call callName _ =>
    if callName ∈ groupCalls then do
      let (presence, type) ← resolveType policy name root
      return some ⟨{ name, doc := .empty, type, presence }, outerCollection root⟩
    else do
      Traced.emit (.notObjectShaped name callName)
      return none
  | _ => return none

end Field

/-- Read a declaration's type and resolve it. -/
def document [PatternEngine] (options : Options) (name text : String) :
    Traced DocumentError (Option Group) :=
  match TypeExpr.parse options.maxDepth text with
  | .error error => .fail (.parse error)
  | .ok root => (Field.resolveGroup options.policy root name).mapError .duplicate

end InputDocs
