import InputDocs.Field

/-!
# Field.Record -- fields with nothing between their entries

A record has the entries that a field is shown by, each for itself. Any choice of values makes a
record, also one that no field has, such as a type name without children or a valid link without a
target. The record of a field (`Field.record`) is one of them.
-/

namespace InputDocs

set_option autoImplicit false

/-! ## Records -/

/-- What a directive says, entry by entry. -/
structure MeaningRecord where
  kind : String
  arguments : List String
  isValid : Bool
  linkStyle : Option LinkStyle

/-- A directive, entry by entry. -/
structure DirectiveRecord where
  name : String
  content : String
  meaning : MeaningRecord

/-- Documentation, entry by entry. -/
structure DocRecord where
  lines : List String
  directives : List DirectiveRecord

/-- A field, entry by entry. -/
structure FieldRecord where
  name : String
  doc : DocRecord
  signature : String
  isOptional : Bool
  default : Option String
  typeName : Option String
  children : List FieldRecord

/-- A group, entry by entry. -/
structure GroupRecord where
  field : FieldRecord
  collection : Collection

namespace FieldRecord

mutual

/-- The record and every record under it that has a type name, parents first. -/
def nestedRecords : FieldRecord → List FieldRecord
  | ⟨name, doc, signature, isOptional, default, typeName, children⟩ =>
    (if typeName.isSome then [⟨name, doc, signature, isOptional, default, typeName, children⟩]
      else []) ++ nestedAmong children

/-- The nested records of several records, one after the other. -/
def nestedAmong : List FieldRecord → List FieldRecord
  | [] => []
  | record :: rest => record.nestedRecords ++ nestedAmong rest

end

end FieldRecord

/-! ## Fields as records -/

/-- The record of a meaning. -/
def Meaning.record (meaning : Meaning) : MeaningRecord :=
  ⟨meaning.kind, meaning.arguments, meaning.isValid, meaning.linkStyle⟩

/-- The record of a directive. -/
def Directive.record (directive : Directive) : DirectiveRecord :=
  ⟨directive.name, directive.content, directive.meaning.record⟩

/-- The record of documentation. -/
def Doc.record (doc : Doc) : DocRecord :=
  ⟨doc.lines, doc.directives.map Directive.record⟩

mutual

/-- The record of a field. -/
def Field.record : Field → FieldRecord
  | ⟨name, doc, .plain signature, presence⟩ =>
    ⟨name, doc.record, signature, presence.isOptional, presence.default?, none, []⟩
  | ⟨name, doc, .nested collection typeName children, presence⟩ =>
    ⟨name, doc.record, collection.wrap (objectSignature typeName), presence.isOptional,
      presence.default?, some typeName, records children⟩

/-- The records of several fields. -/
def Field.records : List Field → List FieldRecord
  | [] => []
  | field :: rest => field.record :: records rest

end

namespace Field

@[simp] theorem name_record (field : Field) : field.record.name = field.name := by
  obtain ⟨_, _, _ | _, _⟩ := field <;> rfl

@[simp] theorem doc_record (field : Field) : field.record.doc = field.doc.record := by
  obtain ⟨_, _, _ | _, _⟩ := field <;> rfl

@[simp] theorem signature_record (field : Field) : field.record.signature = field.signature := by
  obtain ⟨_, _, _ | _, _⟩ := field <;> rfl

@[simp] theorem isOptional_record (field : Field) :
    field.record.isOptional = field.presence.isOptional := by
  obtain ⟨_, _, _ | _, _⟩ := field <;> rfl

@[simp] theorem default_record (field : Field) :
    field.record.default = field.presence.default? := by
  obtain ⟨_, _, _ | _, _⟩ := field <;> rfl

@[simp] theorem typeName_record (field : Field) : field.record.typeName = field.typeName? := by
  obtain ⟨_, _, _ | _, _⟩ := field <;> rfl

theorem records_eq_map (fields : List Field) : records fields = fields.map record := by
  induction fields with
  | nil => rfl
  | cons first rest ih => rw [records, ih, List.map_cons]

@[simp] theorem children_record (field : Field) :
    field.record.children = field.children.map record := by
  obtain ⟨_, _, _ | ⟨_, _, children⟩, _⟩ := field
  · rfl
  · exact records_eq_map children

end Field

/-- The record of a group. -/
def Group.record (group : Group) : GroupRecord := ⟨group.field.record, group.collection⟩

end InputDocs
