import InputDocs.Field.Record
import InputDocs.Field.Resolve
import Std.Data.HashMap

/-!
# Field.Write -- records written entry by entry

The record of a property starts out blank and is written while its type is read
(`FieldRecord.writeType`): a call of `optional` sets the flag, lets its first argument write, and
then sets the default over what that has written. An object literal fills in the children, the
signature and the type name, and any other type the signature alone. Each entry is set by itself;
that they fit together is not in the type of a record.

The records of the properties of an object literal stand in a list, and a table says at which place
the record of a key stands (`FieldRecord.Listed`). A key that comes again is written over in that
place.
-/

namespace InputDocs

set_option autoImplicit false

/-- The properties of an object literal in a call of `map` or `list`, with the name of the call. -/
def TypeExpr.collected? : TypeExpr → Option (String × List (Property TypeExpr))
  | call name [inner] =>
    if name = "map" ∨ name = "list" then inner.literal?.map fun properties => (name, properties)
    else none
  | _ => none

theorem TypeExpr.sizeOf_of_collected? {expr : TypeExpr} {name : String}
    {properties : List (Property TypeExpr)} (h : expr.collected? = some (name, properties)) :
    sizeOf properties < sizeOf expr := by
  unfold collected? at h
  split at h
  · split at h
    · obtain ⟨found, same, rest⟩ := Option.map_eq_some_iff.1 h
      cases rest
      have smaller := sizeOf_of_literal? same
      simp only [call.sizeOf_spec, List.cons.sizeOf_spec]
      omega
    · cases h
  · cases h

namespace FieldRecord

open TypeExpr (optional? literal? collected?)

/-- The record of a field of which the name alone is known. -/
def blank (name : String) : FieldRecord := ⟨name, ⟨[], []⟩, "", false, none, none, []⟩

/-- The record with the flag on. -/
def flagged (record : FieldRecord) : FieldRecord := { record with isOptional := true }

/-- The record with the text of a default, or as it is if there is none. -/
def withDefault (record : FieldRecord) : Option TypeExpr → Traced DuplicateKey FieldRecord
  | some default => do
    let default ← Field.defaultText default
    return { record with default }
  | none => return record

/-- Records in their order, and the places of their names. -/
structure Listed where
  records : List FieldRecord
  places : Std.HashMap String Nat

/-- No records. -/
def Listed.empty : Listed := ⟨[], ∅⟩

/-- A record over the one at a place. -/
def Listed.replaceAt (listed : Listed) (place : Nat) (record : FieldRecord) : Listed :=
  { listed with records := listed.records.set place record }

/-- A record after the others, in a place of its own. -/
def Listed.push (listed : Listed) (key : String) (record : FieldRecord) : Listed :=
  ⟨listed.records ++ [record], listed.places.insert key listed.records.length⟩

variable [PatternEngine]

/-- The record with what a comment says. -/
def documented (record : FieldRecord) : Option Comment → FieldRecord
  | some comment => { record with doc := (Doc.ofComment comment).record }
  | none => record

mutual

/-- Write the record of a property. -/
def write (policy : DuplicatePolicy) (property : Property TypeExpr) :
    Traced DuplicateKey FieldRecord :=
  writeType policy ((blank property.key).documented property.comment) property.value
termination_by (sizeOf property, 0)
decreasing_by
  cases property
  refine Prod.Lex.left _ _ ?_
  simp only [Property.mk.sizeOf_spec]
  omega

/-- Write the type that an expression gives. -/
def writeType (policy : DuplicatePolicy) (record : FieldRecord) (expr : TypeExpr) :
    Traced DuplicateKey FieldRecord :=
  match _peeled : expr.optional? with
  | some arguments => do
    let record ← match _first : arguments with
      | inner :: _ => writeType policy record.flagged inner
      | [] => do
        Traced.emit (.optionalWithoutType record.name)
        pure record.flagged
    let record ← record.withDefault arguments[1]?
    if 2 < arguments.length then Traced.emit (.extraArguments record.name arguments.length)
    return record
  | none =>
    match _collected : expr.collected? with
    | some (call, properties) => expand policy record (Collection.ofCall call) properties
    | none =>
      match _literal : expr.literal? with
      | some properties => expand policy record .none properties
      | none => return { record with signature := expr.signature.getD "" }
termination_by (sizeOf expr, 0)
decreasing_by
  · exact Prod.Lex.left _ _ (TypeExpr.sizeOf_of_optional? (_first ▸ _peeled))
  · exact Prod.Lex.left _ _ (TypeExpr.sizeOf_of_collected? _collected)
  · exact Prod.Lex.left _ _ (TypeExpr.sizeOf_of_literal? _literal)

/-- Write the type of an object literal with these properties, possibly inside a collection. -/
def expand (policy : DuplicatePolicy) (record : FieldRecord) (collection : Collection)
    (properties : List (Property TypeExpr)) : Traced DuplicateKey FieldRecord :=
  match properties with
  | [] => return { record with signature := collection.wrap (objectSignature "\x7b\x7d") }
  | first :: rest => do
    let children ← writeAll policy .empty (first :: rest)
    let name := InputDocs.typeName record.name
    let record := { record with children }
    let record := { record with signature := collection.wrap (objectSignature name) }
    return { record with typeName := some name }
termination_by (sizeOf properties, 1)

/-- Write the records of properties, after those that are listed. -/
def writeAll (policy : DuplicatePolicy) (listed : Listed) :
    List (Property TypeExpr) → Traced DuplicateKey (List FieldRecord)
  | [] => return listed.records
  | property :: rest => do
    let record ← write policy property
    match listed.places[property.key]? with
    | some place =>
      match policy with
      | .lastWins =>
        Traced.emit (.keyReplaced property.key)
        writeAll policy (listed.replaceAt place record) rest
      | .reject => Traced.fail ⟨property.key⟩
    | none => writeAll policy (listed.push property.key record) rest
termination_by properties => (sizeOf properties, 0)

end

end FieldRecord

/-- Write the record of a declaration, or nothing if it is not object-shaped. -/
def GroupRecord.write [PatternEngine] (policy : DuplicatePolicy) (root : TypeExpr) (name : String) :
    Traced DuplicateKey (Option GroupRecord) :=
  match root with
  | .call callName _ =>
    if callName ∈ Field.groupCalls then do
      let field ← FieldRecord.writeType policy (.blank name) root
      return some ⟨field, Field.outerCollection root⟩
    else do
      Traced.emit (.notObjectShaped name callName)
      return none
  | _ => return none

/-- Read a declaration's type and write its record. -/
def documentRecord [PatternEngine] (options : Options) (name text : String) :
    Traced DocumentError (Option GroupRecord) :=
  match TypeExpr.parse options.maxDepth text with
  | .error error => .fail (.parse error)
  | .ok root => (GroupRecord.write options.policy root name).mapError .duplicate

end InputDocs
