import InputDocs.Doc
import InputDocs.Unicode.Case

/-!
# Field -- documented fields

A field has a name, documentation, a type and a presence. Its type is plain, with a signature, or
nested: an object type of its own, with a generated name and the fields of the object, possibly
inside a collection. A type name is made from the field's name by capitalizing the parts between
underscores (`typeName`).

`Field.signature`, `Field.typeName?` and `Field.children` are the three views of a type that
tables show. That a field with a type name has a signature of the form `collection(object(Name))`
is so by definition (`signature_nested`).
-/

namespace InputDocs

set_option autoImplicit false

/-- What a declaration is a collection of, if it is one. -/
inductive Collection where
  | none
  | map
  | list
  deriving DecidableEq, Repr

namespace Collection

/-- The collection that a call with this name makes. -/
def ofCall (name : String) : Collection :=
  if name = "map" then .map else if name = "list" then .list else .none

/-- The name of the call. -/
def text : Collection → String
  | none => ""
  | map => "map"
  | list => "list"

/-- A signature inside the collection. -/
def wrap (collection : Collection) (inner : String) : String :=
  match collection with
  | none => inner
  | other => other.text ++ "(" ++ inner ++ ")"

end Collection

/-- Whether a value must be given, and what stands in for one that is not. -/
inductive Presence where
  | required
  | optional (default : Option String)
  deriving DecidableEq, Repr

namespace Presence

/-- Whether the value may be left out. -/
def isOptional : Presence → Bool
  | required => false
  | optional _ => true

/-- What stands in for a value that is left out. -/
def default? : Presence → Option String
  | required => none
  | optional default => default

end Presence

/-- The type of a field, over the type of the fields inside it. -/
inductive FieldType (α : Type) where
  | plain (signature : String)
  | nested (collection : Collection) (typeName : String) (children : List α)
  deriving Repr

/-- A documented field. -/
structure Field where
  name : String
  doc : Doc
  type : FieldType Field
  presence : Presence
  deriving Repr

/-- A declaration with the collection it was written as. -/
structure Group where
  field : Field
  collection : Collection
  deriving Repr

/-! ## Type names -/

/-- The type name of an object whose owner's name leaves nothing to build one from. -/
def unknownTypeName : String := "UnknownObject"

/-- The type name for an object owned by `name`: `instance_config` owns an `InstanceConfig`. -/
def typeName (name : String) : String :=
  let joined := (name.toList.splitOn '_').flatMap Unicode.capitalize
  if joined = [] then unknownTypeName else String.ofList joined

/-! ## Views -/

/-- The signature of an object type called `name`. -/
def objectSignature (name : String) : String := "object(" ++ name ++ ")"

namespace Field

/-- The type on one line. -/
def signature (field : Field) : String :=
  match field.type with
  | .plain signature => signature
  | .nested collection name _ => collection.wrap (objectSignature name)

/-- The name of the field's own object type. -/
def typeName? (field : Field) : Option String :=
  match field.type with
  | .plain _ => none
  | .nested _ name _ => some name

/-- The fields of the field's own object type. -/
def children (field : Field) : List Field :=
  match field.type with
  | .plain _ => []
  | .nested _ _ children => children

mutual

/-- The field and every field under it that has an object type of its own, parents first. -/
def nestedFields : Field → List Field
  | ⟨_, _, .plain _, _⟩ => []
  | ⟨name, doc, .nested collection typeName children, presence⟩ =>
    ⟨name, doc, .nested collection typeName children, presence⟩ :: nestedAmong children

/-- The nested fields of several fields, one after the other. -/
def nestedAmong : List Field → List Field
  | [] => []
  | field :: rest => field.nestedFields ++ nestedAmong rest

end

@[simp] theorem signature_nested (name : String) (doc : Doc) (collection : Collection)
    (typeName : String) (children : List Field) (presence : Presence) :
    signature ⟨name, doc, .nested collection typeName children, presence⟩ =
      collection.wrap (objectSignature typeName) := rfl

end Field

end InputDocs
