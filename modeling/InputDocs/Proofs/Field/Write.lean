import InputDocs.Field.Write
import InputDocs.Proofs.Field.Expansion

/-!
# Proofs.Field.Write -- what is written is the record of the resolved field

Writing a record entry by entry and resolving a field report the same events and fail in the same
way, and what is written is the record of the field that is resolved (`FieldRecord.write_eq`,
`GroupRecord.write_eq`). The induction goes over the properties that a property declares. Along the
calls of `optional` it is the flag alone that has been set before the rest is written
(`FieldRecord.writeType_eq`).

For the properties of an object literal, the table of places has to lead to where the fields are:
exactly the names have a place, and it is the place of the field with that name
(`FieldRecord.Listed.Lists`). No name can have two.
-/

namespace InputDocs

set_option autoImplicit false

namespace TypeExpr

/-- What is expanded: a literal in a call of `map` or `list`, or else a literal by itself. -/
theorem expansion?_eq (expr : TypeExpr) :
    expr.expansion? =
      match expr.collected? with
      | some (name, properties) => some (.ofCall name, properties)
      | none => expr.literal?.map fun properties => (.none, properties) := by
  unfold expansion? collected?
  match expr with
  | call name [inner] =>
      by_cases collects : name = "map" ∨ name = "list"
      · have whole : (call name [inner]).literal? = none := by
          rcases collects with rfl | rfl <;> cases inner <;> rfl
        have some_collection : Collection.ofCall name ≠ .none := by
          rcases collects with rfl | rfl <;> decide
        simp only [whole, some_collection, collects, if_true, if_false]
        cases inner.literal? <;> rfl
      · have no_collection : Collection.ofCall name = .none := by
          simp only [not_or] at collects
          simp [Collection.ofCall, collects]
        simp only [no_collection, collects, if_true, if_false]
        cases (call name [inner]).literal? <;> rfl
  | call name [] | call name (_ :: _ :: _) | object _ | word _ | number _ | quoted _ =>
      cases literal? _ <;> rfl

end TypeExpr

namespace FieldRecord

/-! ## Places -/

theorem getElem?_append_singleton_eq_some_iff {names : List String} {last name : String}
    {place : Nat} :
    (names ++ [last])[place]? = some name ↔
      names[place]? = some name ∨ place = names.length ∧ last = name := by
  grind

/-- The records are those of the fields, and the table leads from a name to the field that has
it. -/
structure Listed.Lists (listed : Listed) (fields : List Field) : Prop where
  records : listed.records = Field.records fields
  places : ∀ (key : String) (place : Nat),
    listed.places[key]? = some place ↔ (fields.map Field.name)[place]? = some key

namespace Listed.Lists

theorem empty : Listed.empty.Lists [] where
  records := rfl
  places key place := by simp [Listed.empty]

variable {listed : Listed} {fields : List Field} (lists : listed.Lists fields)

include lists

theorem isSome_iff (key : String) :
    listed.places[key]?.isSome = true ↔ key ∈ fields.map Field.name := by
  rw [Option.isSome_iff_exists, List.mem_iff_getElem?]
  exact exists_congr (lists.places key)

/-- A field has the name of a place exactly if it stands there. -/
theorem name_eq_iff {key : String} {place other : Nat} {field : Field}
    (placed : listed.places[key]? = some place) (there : fields[other]? = some field) :
    field.name = key ↔ place = other := by
  have named := lists.places key other
  rw [List.getElem?_map, there, placed] at named
  simpa [eq_comm] using named.symm

/-- A field with a name that has a place replaces the field in that place and no other. -/
theorem replace_eq {field : Field} {place : Nat}
    (placed : listed.places[field.name]? = some place) :
    Field.replace field fields = fields.set place field := by
  refine List.ext_getElem? fun other => ?_
  rw [Field.replace, List.getElem?_map, List.getElem?_set]
  cases there : fields[other]? with
  | none =>
      have outside := List.getElem?_eq_none_iff.1 there
      split
      · rename_i same
        rw [if_neg (by omega), Option.map_none]
      · rfl
  | some old =>
      have inside := (List.getElem?_eq_some_iff.1 there).1
      have named := lists.name_eq_iff placed there
      rw [Option.map_some]
      split
      · rename_i same
        rw [if_pos (named.1 same), if_pos (named.1 same ▸ inside)]
      · rename_i different
        rw [if_neg (mt named.2 different)]

theorem replaceAt {field : Field} {place : Nat} (placed : listed.places[field.name]? = some place) :
    (listed.replaceAt place field.record).Lists (Field.replace field fields) where
  records := by
    rw [lists.replace_eq placed, Field.records_eq_map, List.map_set, ← Field.records_eq_map,
      ← lists.records]
    rfl
  places := by
    rw [Field.names_replace]
    exact lists.places

theorem push {field : Field} (fresh : listed.places[field.name]? = none) :
    (listed.push field.name field.record).Lists (fields ++ [field]) := by
  have counted : listed.records.length = (fields.map Field.name).length := by
    rw [lists.records, Field.records_eq_map, List.length_map, List.length_map]
  refine ⟨?_, fun key place => ?_⟩
  · rw [Field.records_eq_map, List.map_append, ← Field.records_eq_map, ← lists.records]
    rfl
  · show (listed.places.insert _ _)[key]? = some place ↔ _
    rw [Std.HashMap.getElem?_insert, List.map_append, List.map_singleton,
      getElem?_append_singleton_eq_some_iff, ← lists.places]
    by_cases own : field.name = key
    · subst own
      simp [fresh, counted, eq_comm]
    · simp [own]

end Listed.Lists

/-! ## Types -/

/-- The record with the type of a field. -/
def typed (record : FieldRecord) : FieldType Field → FieldRecord
  | .plain signature => { record with signature }
  | .nested collection typeName children =>
    { record with
      signature := collection.wrap (objectSignature typeName)
      typeName := some typeName
      children := Field.records children }

/-- The record with the presence of a field, and still with the flag if that was set. -/
def present (record : FieldRecord) (presence : Presence) : FieldRecord :=
  { record with
    isOptional := record.isOptional || presence.isOptional
    default := presence.default? }

theorem name_present_typed (record : FieldRecord) (type : FieldType Field) (presence : Presence) :
    ((record.typed type).present presence).name = record.name := by
  cases type <;> rfl

/-- A field that must be given leaves the flag and the default as they were. -/
theorem present_required {record : FieldRecord} (unset : record.default = none)
    (type : FieldType Field) : (record.typed type).present .required = record.typed type := by
  cases type <;> simp [typed, present, Presence.isOptional, Presence.default?, unset]

/-- A default that is set after the type was written with the flag on. -/
theorem present_optional (record : FieldRecord) (type : FieldType Field) (presence : Presence)
    (default : Option String) :
    { (record.flagged.typed type).present presence with default } =
      (record.typed type).present (.optional default) := by
  cases type <;> simp [flagged, typed, present, Presence.isOptional, Presence.default?]

variable [PatternEngine] {policy : DuplicatePolicy}

section Equations

variable (policy) (record : FieldRecord)

theorem writeType_bare :
    writeType policy record (.call "optional" []) = (do
      Traced.emit (.optionalWithoutType record.name)
      return record.flagged) := by
  have peeled := TypeExpr.optional?_call []
  rw [writeType]
  split
  · rename_i same
    obtain rfl : _ = _ := by simpa [peeled] using same
    simp [withDefault]
  · simp_all

theorem writeType_optional (inner : TypeExpr) (others : List TypeExpr) :
    writeType policy record (.call "optional" (inner :: others)) = (do
      let record ← writeType policy record.flagged inner
      let record ← record.withDefault others.head?
      if 1 < others.length then
        Traced.emit (.extraArguments record.name (others.length + 1))
      return record) := by
  have peeled := TypeExpr.optional?_call (inner :: others)
  rw [writeType]
  split
  · rename_i same
    obtain rfl : _ = _ := by simpa [peeled] using same
    cases others <;> simp
  · simp_all

theorem writeType_plain {expr : TypeExpr} (plain : expr.optional? = none) :
    writeType policy record expr =
      match expr.expansion? with
      | some (collection, properties) => expand policy record collection properties
      | none => return { record with signature := expr.signature.getD "" } := by
  rw [writeType, TypeExpr.expansion?_eq]
  split
  · simp_all
  · split
    · rename_i collected
      rw [collected]
    · rename_i uncollected
      rw [uncollected]
      split
      · rename_i literal
        rw [literal]
        rfl
      · rename_i other
        rw [other]
        rfl

end Equations

/-! ## Children -/

theorem writeAll_eq {properties : List (Property TypeExpr)}
    (each : ∀ property ∈ properties,
      write policy property = Field.record <$> Field.resolve policy property)
    {listed : Listed} {fields : List Field} (lists : listed.Lists fields) :
    writeAll policy listed properties =
      Field.records <$> Field.resolveAll policy fields properties := by
  induction properties generalizing listed fields with
  | nil =>
      rw [writeAll, Field.resolveAll, lists.records]
      rfl
  | cons property rest ih =>
      obtain ⟨here, others⟩ := List.forall_mem_cons.1 each
      rw [writeAll, Field.resolveAll, here, bind_map_left, map_bind]
      refine Traced.bind_congr_outcome fun field resolved => ?_
      obtain ⟨-, named, -⟩ := Field.resolve_ok_iff.1 resolved
      rw [← named]
      have known : (fields.any fun old => decide (old.name = field.name)) =
          listed.places[field.name]?.isSome := by
        rw [Bool.eq_iff_iff, lists.isSome_iff]
        simp
      rw [known]
      cases placed : listed.places[field.name]? with
      | none => exact ih others (lists.push placed)
      | some place =>
          cases policy with
          | lastWins =>
              rw [Option.isSome_some, if_pos rfl, map_bind]
              exact bind_congr fun _ => ih others (lists.replaceAt placed)
          | reject => rfl

theorem expand_eq (record : FieldRecord) (collection : Collection)
    {properties : List (Property TypeExpr)}
    (each : ∀ property ∈ properties,
      write policy property = Field.record <$> Field.resolve policy property) :
    expand policy record collection properties =
      record.typed <$> match properties with
        | [] => return .plain (collection.wrap (objectSignature "\x7b\x7d"))
        | first :: rest => do
          let children ← Field.resolveAll policy [] (first :: rest)
          return .nested collection (InputDocs.typeName record.name) children := by
  cases properties with
  | nil =>
      rw [expand]
      rfl
  | cons first rest =>
      rw [expand, writeAll_eq each .empty, bind_map_left, map_bind]
      rfl

/-! ## Whole records -/

/-- What is written for an expression is what it gives to a field, type and presence. The flag may
be on already; it stays. -/
theorem writeType_eq {expr : TypeExpr}
    (each : ∀ property ∈ expr.properties,
      write policy property = Field.record <$> Field.resolve policy property)
    (record : FieldRecord) (untyped : record.signature = "") (unset : record.default = none) :
    writeType policy record expr =
      (fun found => (record.typed found.2).present found.1) <$>
        Field.resolveType policy record.name expr := by
  induction expr using TypeExpr.peeling_induction generalizing record with
  | plain expr plain =>
      rw [TypeExpr.properties_plain plain] at each
      rw [writeType_plain policy record plain, Field.resolveType_plain policy record.name plain]
      cases expanded : expr.expansion? with
      | none =>
          rw [map_pure, present_required unset]
          rfl
      | some expansion =>
          obtain ⟨collection, literal⟩ := expansion
          rw [expanded] at each
          have filled := expand_eq record collection each
          cases literal with
          | nil => simpa [present_required unset] using filled
          | cons first rest => simpa [present_required unset] using filled
  | bare =>
      rw [writeType_bare, Field.resolveType_bare, map_bind]
      refine bind_congr fun _ => ?_
      simp [flagged, typed, present, Presence.isOptional, Presence.default?, untyped, unset]
  | optional inner others ih =>
      rw [TypeExpr.properties_optional] at each
      have first := ih each record.flagged untyped unset
      rw [writeType_optional, Field.resolveType_optional, first, bind_map_left, map_bind]
      refine bind_congr fun found => ?_
      obtain ⟨presence, type⟩ := found
      cases others with
      | nil => exact congrArg pure (present_optional record type presence presence.default?)
      | cons default more =>
          simp only [List.head?_cons, withDefault, bind_assoc, pure_bind, map_bind]
          refine bind_congr fun text => ?_
          rw [present_optional record type presence text, name_present_typed]
          split
          · rw [map_bind]
            rfl
          · rfl

/-- The record of a field is the blank one with documentation, type and presence. -/
theorem record_eq (name : String) (comment : Option Comment) (type : FieldType Field)
    (presence : Presence) :
    Field.record ⟨name, (comment.map Doc.ofComment).getD .empty, type, presence⟩ =
      (((blank name).documented comment).typed type).present presence := by
  cases comment <;> cases type <;> simp [blank, documented, typed, present, Field.record] <;> rfl

/-- **What is written for a property is the record of its field**, with the same events. -/
theorem write_eq (policy : DuplicatePolicy) (property : Property TypeExpr) :
    write policy property = Field.record <$> Field.resolve policy property := by
  induction property using Property.declared_induction with
  | step property each =>
      have written := writeType_eq each ((blank property.key).documented property.comment)
        (by cases property.comment <;> rfl) (by cases property.comment <;> rfl)
      have named : ((blank property.key).documented property.comment).name = property.key := by
        cases property.comment <;> rfl
      rw [write, Field.resolve, written, named, map_bind]
      refine (map_eq_pure_bind _ _).trans (bind_congr fun found => ?_)
      rw [map_pure, record_eq]

end FieldRecord

/-- **What is written for a declaration is the record of its group**, with the same events. -/
theorem GroupRecord.write_eq [PatternEngine] (policy : DuplicatePolicy) (root : TypeExpr)
    (name : String) :
    write policy root name = Option.map Group.record <$> Field.resolveGroup policy root name := by
  cases root with
  | call callName arguments =>
      simp only [write, Field.resolveGroup]
      split
      · have each : ∀ property ∈ (TypeExpr.call callName arguments).properties,
            FieldRecord.write policy property = Field.record <$> Field.resolve policy property :=
          fun property _ => FieldRecord.write_eq policy property
        have written := FieldRecord.writeType_eq each (.blank name) rfl rfl
        rw [written, bind_map_left, map_bind]
        refine bind_congr fun found => ?_
        rw [map_pure, Option.map_some, Group.record]
        have same := FieldRecord.record_eq name none found.2 found.1
        exact congrArg (fun field => pure (some (GroupRecord.mk field _))) same.symm
      · rw [map_bind]
        rfl
  | _ => rfl

/-- A declaration that is read is written as the record of its group. -/
theorem documentRecord_eq [PatternEngine] (options : Options) (name text : String) :
    documentRecord options name text = Option.map Group.record <$> document options name text := by
  unfold documentRecord document
  cases TypeExpr.parse options.maxDepth text with
  | error error => rfl
  | ok root =>
      simp only [GroupRecord.write_eq]
      exact Traced.mapError_map _ _ _

end InputDocs
