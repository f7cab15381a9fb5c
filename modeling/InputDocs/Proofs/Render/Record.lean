import InputDocs.Field.Record
import InputDocs.Proofs.Field.Wrapper
import InputDocs.Proofs.Json.RoundTrip
import InputDocs.Render.Json
import Mathlib.Data.List.Basic

/-!
# Proofs.Render.Record -- the entries of a group's object

The object of a field has the same keys for every field, and a record is any choice of values for
these keys. Distinct records have distinct objects (`recordJson_injective`).

The object of a field is the object of its record (`groupJson_eq`), and nothing of the field is
missing there (`Group.record_injective`). Its signature, for one, gives the collection away.
-/

namespace InputDocs

set_option autoImplicit false

open Render

/-! ## Objects -/

/-- The object of a meaning's record. -/
def MeaningRecord.json (record : MeaningRecord) : Json :=
  .object
    ([("kind", .string record.kind), ("args", .array (record.arguments.map .string)),
        ("valid", .bool record.isValid)] ++
      (record.linkStyle.map fun style => ("link_style", Json.string (linkStyleText style))).toList)

/-- The object of a directive's record. -/
def DirectiveRecord.json (record : DirectiveRecord) : Json :=
  .object
    [ ("name", .string record.name), ("raw_content", .string record.content),
      ("parsed", record.meaning.json) ]

/-- The object of a record of documentation. -/
def DocRecord.json (record : DocRecord) : Json :=
  .object
    [ ("content_lines", .array (record.lines.map .string)),
      ("directives", .array (record.directives.map DirectiveRecord.json)) ]

mutual

/-- The entries of a record's object. -/
def FieldRecord.entries : FieldRecord → List (String × Json)
  | ⟨name, doc, signature, isOptional, default, typeName, children⟩ =>
    [ ("name", .string name), ("documentation", doc.json), ("data_type_str", .string signature),
      ("optional", .bool isOptional), ("default_value", optionalText default),
      ("nested_type_name", optionalText typeName), ("children", .array (recordsJson children)) ]

/-- Records as objects. -/
def recordsJson : List FieldRecord → List Json
  | [] => []
  | record :: rest => .object record.entries :: recordsJson rest

end

/-- The object of a group's record, or `null` if there is none. -/
def recordJson : Option GroupRecord → Json
  | none => .null
  | some record =>
    .object (record.field.entries ++ [("collection_prefix", .string record.collection.text)])

/-! ## Distinct records have distinct objects -/

/-- An entry that stands only where there is a value is found under its key. -/
theorem lookup_optional {α : Type} (key other : String) (value : Option α) (f : α → Json) :
    ((value.map fun x => (key, f x)).toList).lookup other =
      if other == key then value.map f else none := by
  cases value with
  | none => simp
  | some x =>
      simp only [Option.map_some, Option.toList_some, List.lookup_cons]
      split <;> simp_all

theorem linkStyleText_injective : Function.Injective linkStyleText := by
  intro first second same
  cases first <;> cases second <;> simp [linkStyleText] at same ⊢

theorem Collection.text_injective : Function.Injective Collection.text := by
  intro first second same
  cases first <;> cases second <;> simp [Collection.text] at same ⊢

theorem optionalText_injective : Function.Injective optionalText := by
  intro first second same
  cases first <;> cases second <;> simp_all [optionalText]

theorem MeaningRecord.json_injective : Function.Injective MeaningRecord.json := by
  rintro ⟨kind, arguments, isValid, style⟩ ⟨kind', arguments', isValid', style'⟩ same
  have entry (key : String) := congrArg (List.lookup key) (Json.object.inj same)
  simp only [List.lookup_append, lookup_optional] at entry
  have kinds : kind = kind' := by
    simpa [List.lookup_cons] using entry "kind"
  have listed : arguments.map Json.string = arguments'.map Json.string := by
    simpa [List.lookup_cons] using entry "args"
  have valid : isValid = isValid' := by
    simpa [List.lookup_cons] using entry "valid"
  have styles : style.map (fun style => Json.string (linkStyleText style)) =
      style'.map fun style => Json.string (linkStyleText style) := by
    simpa [List.lookup_cons] using entry "link_style"
  obtain rfl := List.map_injective_iff.2 (fun _ _ => Json.string.inj) listed
  obtain rfl := Option.map_injective
    (fun _ _ same => linkStyleText_injective (Json.string.inj same)) styles
  rw [kinds, valid]

theorem DirectiveRecord.json_injective : Function.Injective DirectiveRecord.json := by
  rintro ⟨name, content, meaning⟩ ⟨name', content', meaning'⟩ same
  simpa [DirectiveRecord.json, MeaningRecord.json_injective.eq_iff] using same

theorem DocRecord.json_injective : Function.Injective DocRecord.json := by
  rintro ⟨lines, directives⟩ ⟨lines', directives'⟩ same
  simp only [DocRecord.json, Json.object.injEq, List.cons.injEq, Prod.mk.injEq, Json.array.injEq,
    true_and, and_true] at same
  obtain ⟨texts, listed⟩ := same
  obtain rfl := List.map_injective_iff.2 (fun _ _ => Json.string.inj) texts
  obtain rfl := DirectiveRecord.json_injective.list_map listed
  rfl

mutual

theorem FieldRecord.eq_of_entries : {first second : FieldRecord} →
    first.entries = second.entries → first = second
  | ⟨_, _, _, _, _, _, children⟩, ⟨_, _, _, _, _, _, children'⟩, same => by
    simp only [FieldRecord.entries, List.cons.injEq, Prod.mk.injEq, true_and, and_true,
      Json.string.injEq, Json.bool.injEq, Json.array.injEq, DocRecord.json_injective.eq_iff,
      optionalText_injective.eq_iff] at same
    obtain ⟨rfl, rfl, rfl, rfl, rfl, rfl, nested⟩ := same
    rw [eq_of_recordsJson nested]

theorem eq_of_recordsJson : {first second : List FieldRecord} →
    recordsJson first = recordsJson second → first = second
  | [], [], _ => rfl
  | [], _ :: _, same => by simp [recordsJson] at same
  | _ :: _, [], same => by simp [recordsJson] at same
  | record :: rest, record' :: rest', same => by
    simp only [recordsJson, List.cons.injEq, Json.object.injEq] at same
    rw [FieldRecord.eq_of_entries same.1, eq_of_recordsJson same.2]

end

theorem recordJson_injective : Function.Injective recordJson := by
  rintro (_ | ⟨field, collection⟩) (_ | ⟨field', collection'⟩) same
  · rfl
  · cases same
  · cases same
  · obtain ⟨entries, last⟩ := List.append_inj' (Json.object.inj same) rfl
    simp only [List.cons.injEq, Prod.mk.injEq, true_and, and_true, Json.string.injEq] at last
    obtain rfl := FieldRecord.eq_of_entries entries
    obtain rfl := Collection.text_injective last
    rfl

/-! ## Records have no numbers -/

theorem numberless_optionalText (text : Option String) : (optionalText text).Numberless := by
  cases text with
  | none => exact .null
  | some text => exact .string text

theorem MeaningRecord.numberless_json (record : MeaningRecord) : record.json.Numberless := by
  obtain ⟨kind, arguments, isValid, style⟩ := record
  cases style <;> simp [json]

theorem DocRecord.numberless_json (record : DocRecord) : record.json.Numberless := by
  simp [json, DirectiveRecord.json, MeaningRecord.numberless_json]

mutual

theorem FieldRecord.numberless_entries : (record : FieldRecord) →
    ∀ entry ∈ record.entries, entry.2.Numberless
  | ⟨_, doc, _, _, default, typeName, children⟩ => by
    simp only [FieldRecord.entries, List.forall_mem_cons, List.not_mem_nil, false_implies,
      implies_true, and_true]
    exact ⟨.string _, doc.numberless_json, .string _, .bool _, numberless_optionalText default,
      numberless_optionalText typeName, .array (numberless_recordsJson children)⟩

theorem numberless_recordsJson : (records : List FieldRecord) →
    ∀ item ∈ recordsJson records, item.Numberless
  | [] => List.forall_mem_nil _
  | record :: rest =>
    List.forall_mem_cons.2 ⟨.object record.numberless_entries, numberless_recordsJson rest⟩

end

theorem numberless_recordJson (record : Option GroupRecord) : (recordJson record).Numberless := by
  cases record with
  | none => exact .null
  | some record =>
      refine .object (List.forall_mem_append.2 ⟨record.field.numberless_entries, ?_⟩)
      exact List.forall_mem_singleton.2 (.string _)

/-! ## Meanings -/

/-- The meaning that a record is of. -/
def MeaningRecord.meaning (record : MeaningRecord) : Meaning :=
  match record.kind, record.isValid, record.arguments, record.linkStyle with
  | "example", false, _, _ => .malformed .sample
  | "link", false, _, _ => .malformed .link
  | "regex", false, _, _ => .malformed .pattern
  | "deprecated", true, [note], _ => .deprecated note
  | "see", true, [target], _ => .see target
  | "since", true, [version], _ => .since version
  | "enum", true, values, _ => .choices values
  | "example", true, [name, target], _ => .sample name target
  | "link", true, [name, target], some style => .link style name target
  | "regex", true, source :: samples, _ => .pattern source samples
  | _, _, _, _ => .unsupported

theorem Meaning.meaning_record (meaning : Meaning) : meaning.record.meaning = meaning := by
  cases meaning with
  | malformed grammar => cases grammar <;> rfl
  | _ => rfl

/-! ## Fields -/

theorem Directive.record_injective : Function.Injective Directive.record := by
  rintro ⟨name, content, meaning⟩ ⟨name', content', meaning'⟩ same
  simp only [record, DirectiveRecord.mk.injEq] at same
  obtain ⟨rfl, rfl, meanings⟩ := same
  rw [← meaning.meaning_record, meanings, meaning'.meaning_record]

theorem Doc.record_injective : Function.Injective Doc.record := by
  rintro ⟨lines, directives⟩ ⟨lines', directives'⟩ same
  simp only [record, DocRecord.mk.injEq] at same
  rw [same.1, Directive.record_injective.list_map same.2]

theorem Presence.eq_of_views {first second : Presence}
    (optional : first.isOptional = second.isOptional) (default : first.default? = second.default?) :
    first = second := by
  cases first <;> cases second <;> simp_all [isOptional, default?]

mutual

theorem Field.eq_of_record : {first second : Field} → first.record = second.record → first = second
  | ⟨_, _, .plain _, _⟩, ⟨_, _, .plain _, _⟩, same => by
    simp only [Field.record, FieldRecord.mk.injEq, Doc.record_injective.eq_iff] at same
    obtain ⟨rfl, rfl, rfl, optional, default, -⟩ := same
    rw [Presence.eq_of_views optional default]
  | ⟨_, _, .plain _, _⟩, ⟨_, _, .nested _ _ _, _⟩, same => by simp [Field.record] at same
  | ⟨_, _, .nested _ _ _, _⟩, ⟨_, _, .plain _, _⟩, same => by simp [Field.record] at same
  | ⟨_, _, .nested _ typeName _, _⟩, ⟨_, _, .nested _ _ _, _⟩, same => by
    simp only [Field.record, FieldRecord.mk.injEq, Doc.record_injective.eq_iff,
      Option.some_inj] at same
    obtain ⟨rfl, rfl, wrapped, optional, default, rfl, children⟩ := same
    rw [Presence.eq_of_views optional default, Field.eq_of_records children,
      Collection.wrap_injective _ wrapped]

theorem Field.eq_of_records : {first second : List Field} →
    Field.records first = Field.records second → first = second
  | [], [], _ => rfl
  | [], _ :: _, same => by simp [Field.records] at same
  | _ :: _, [], same => by simp [Field.records] at same
  | _ :: _, _ :: _, same => by
    simp only [Field.records, List.cons.injEq] at same
    rw [Field.eq_of_record same.1, Field.eq_of_records same.2]

end

theorem Group.record_injective : Function.Injective Group.record := by
  rintro ⟨field, collection⟩ ⟨field', collection'⟩ same
  simp only [record, GroupRecord.mk.injEq] at same
  rw [Field.eq_of_record same.1, same.2]

theorem docJson_eq (doc : Doc) : docJson doc = doc.record.json := by
  simp [docJson, Doc.record, DocRecord.json, directiveJson, Directive.record, DirectiveRecord.json,
    meaningJson, Meaning.record, MeaningRecord.json]

mutual

theorem fieldEntries_eq : (field : Field) → fieldEntries field = field.record.entries
  | ⟨_, _, .plain _, _⟩ => by
    simp [fieldEntries, Field.record, FieldRecord.entries, recordsJson, docJson_eq, optionalText]
  | ⟨_, _, .nested _ _ children, _⟩ => by
    simp [fieldEntries, Field.record, FieldRecord.entries, docJson_eq, optionalText,
      fieldsJson_eq children]

theorem fieldsJson_eq :
    (fields : List Field) → fieldsJson fields = recordsJson (Field.records fields)
  | [] => rfl
  | field :: rest => by
    rw [fieldsJson, fieldEntries_eq field, fieldsJson_eq rest, Field.records, recordsJson]

end

/-- **The object of a group is the object of its record.** -/
theorem groupJson_eq (group : Option Group) :
    groupJson group = recordJson (group.map Group.record) := by
  cases group with
  | none => rfl
  | some group =>
      rw [groupJson, fieldEntries_eq]
      rfl

end InputDocs
