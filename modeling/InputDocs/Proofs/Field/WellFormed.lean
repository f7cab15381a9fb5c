import InputDocs.Proofs.Field.Write

/-!
# Proofs.Field.WellFormed -- every part of a documented tree

Every field of a resolved tree is resolved from a property itself, so all of them are well formed.
A field has no place for a type name without children, or for a default of what must be given. A
record has, and the same is stated of every record of a tree that is written
(`FieldRecord.WellFormed`): it carries over since the records that are written are those of fields.
-/

namespace InputDocs

set_option autoImplicit false

namespace FieldRecord

/-- What the record of a documented field satisfies:

* it has a type name exactly if it has children;
* the type name is made from its own name, and its signature is the object type of that name, by
  itself or in a collection;
* its children have different names;
* the default is set only where the flag is. -/
structure WellFormed (record : FieldRecord) : Prop where
  named_iff : record.typeName.isSome = true ↔ record.children ≠ []
  signature : ∀ type ∈ record.typeName, type = InputDocs.typeName record.name ∧
    record.signature ∈ ["object(" ++ type ++ ")", "map(object(" ++ type ++ "))",
      "list(object(" ++ type ++ "))"]
  distinct : (record.children.map FieldRecord.name).Nodup
  default : record.default.isSome = true → record.isOptional = true

/-- `inner` is the record or stands under it, at any depth. -/
inductive Within (inner : FieldRecord) : FieldRecord → Prop
  | self : Within inner inner
  | child {record child : FieldRecord} (member : child ∈ record.children)
      (within : Within inner child) : Within inner record

end FieldRecord

/-! ## Records of fields -/

namespace Field

/-- What stands under the record of a field is the record of a field under it. -/
theorem exists_of_within_record {inner record : FieldRecord}
    (within : FieldRecord.Within inner record) :
    ∀ field : Field, field.record = record →
      ∃ below, Within below field ∧ below.record = inner := by
  induction within with
  | self => exact fun field same => ⟨field, .self, same⟩
  | child member _ ih =>
      rintro field rfl
      rw [children_record] at member
      obtain ⟨child, among, same⟩ := List.mem_map.1 member
      obtain ⟨below, within, same⟩ := ih child same
      exact ⟨below, .child among within, same⟩

/-- The record of a field that is well formed is well formed. -/
theorem WellFormed.record {field : Field} (wellFormed : field.WellFormed) :
    field.record.WellFormed where
  named_iff := by simpa using wellFormed.named_iff
  signature := by simpa using wellFormed.signature
  distinct := by simpa [Function.comp_def] using wellFormed.distinct
  default := by simpa using wellFormed.default

variable [PatternEngine] {policy : DuplicatePolicy}

theorem wellFormed_of_within {property : Property TypeExpr} {field inner : Field}
    (done : (resolve policy property).outcome = .ok field) (within : Within inner field) :
    inner.WellFormed := by
  obtain ⟨source, _, resolved⟩ := exists_source done within
  exact wellFormed_of_resolve resolved

theorem wellFormed_of_within_record {property : Property TypeExpr} {field : Field}
    {inner : FieldRecord} (done : (resolve policy property).outcome = .ok field)
    (within : FieldRecord.Within inner field.record) : inner.WellFormed := by
  obtain ⟨below, beneath, rfl⟩ := exists_of_within_record within field rfl
  exact (wellFormed_of_within done beneath).record

/-- **Every part of a documented tree is well formed**, whether a property or a declaration as a
whole is resolved: every field, and every record where records are written entry by entry. -/
theorem resolved_wellFormed (policy : DuplicatePolicy) :
    (∀ property field, (resolve policy property).outcome = .ok field →
      ∀ inner, Within inner field → inner.WellFormed) ∧
    (∀ root name group, (resolveGroup policy root name).outcome = .ok (some group) →
      ∀ inner, Within inner group.field → inner.WellFormed) ∧
    (∀ property record, (FieldRecord.write policy property).outcome = .ok record →
      ∀ inner, FieldRecord.Within inner record → inner.WellFormed) ∧
    ∀ root name group, (GroupRecord.write policy root name).outcome = .ok (some group) →
      ∀ inner, FieldRecord.Within inner group.field → inner.WellFormed := by
  refine ⟨?_, ?_, ?_, ?_⟩
  · exact fun property field done inner within => wellFormed_of_within done within
  · intro root name group done inner within
    exact wellFormed_of_within (resolve_of_resolveGroup done) within
  · intro property record done inner within
    rw [FieldRecord.write_eq] at done
    obtain ⟨field, resolved, rfl⟩ := Traced.outcome_map_eq_ok_iff.1 done
    exact wellFormed_of_within_record resolved within
  · intro root name group done inner within
    rw [GroupRecord.write_eq] at done
    obtain ⟨found, resolved, same⟩ := Traced.outcome_map_eq_ok_iff.1 done
    obtain ⟨group, rfl, rfl⟩ := Option.map_eq_some_iff.1 same
    exact wellFormed_of_within_record (resolve_of_resolveGroup resolved) within

omit [PatternEngine] in
/-- A map of objects that repeat a key, as a property that may be left out and by itself. -/
theorem resolved_wellFormed_map :
    let _ : PatternEngine := .lenient
    let sizes : TypeExpr := .object [⟨none, "size_gb", .word "any"⟩,
      ⟨none, "size_gb", .call "optional" [.word "number", .number "20"]⟩]
    let disks : TypeExpr := .call "map" [.call "object" [sizes]]
    let type : FieldType Field := .nested .map (typeName "root_disk")
      [⟨"size_gb", .empty, .plain "number", .optional (some "20")⟩]
    let property : Property TypeExpr := ⟨none, "root_disk", .call "optional" [disks]⟩
    let field : Field := ⟨"root_disk", .empty, type, .optional none⟩
    let group : Group := ⟨⟨"root_disk", .empty, type, .required⟩, .map⟩
    ((resolve .lastWins property).outcome = .ok field ∧
        ∀ inner, Within inner field → inner.WellFormed) ∧
      ((resolveGroup .lastWins disks "root_disk").outcome = .ok (some group) ∧
        ∀ inner, Within inner group.field → inner.WellFormed) ∧
      ((FieldRecord.write .lastWins property).outcome = .ok field.record ∧
        ∀ inner, FieldRecord.Within inner field.record → inner.WellFormed) ∧
      (GroupRecord.write .lastWins disks "root_disk").outcome = .ok (some group.record) ∧
        ∀ inner, FieldRecord.Within inner group.record.field → inner.WellFormed := by
  intro _ sizes disks type property field group
  have done : (resolve .lastWins property).outcome = .ok field := by
    with_unfolding_all rfl
  have documented : (resolveGroup .lastWins disks "root_disk").outcome = .ok (some group) := by
    with_unfolding_all rfl
  have written : (FieldRecord.write .lastWins property).outcome = .ok field.record := by
    rw [FieldRecord.write_eq]
    exact Traced.outcome_map_eq_ok_iff.2 ⟨field, done, rfl⟩
  have recorded : (GroupRecord.write .lastWins disks "root_disk").outcome =
      .ok (some group.record) := by
    rw [GroupRecord.write_eq]
    exact Traced.outcome_map_eq_ok_iff.2 ⟨some group, documented, rfl⟩
  obtain ⟨ofProperty, ofGroup, ofRecord, ofGroupRecord⟩ := resolved_wellFormed .lastWins
  exact ⟨⟨done, ofProperty property field done⟩, ⟨documented, ofGroup disks _ group documented⟩,
    ⟨written, ofRecord property field.record written⟩, recorded,
    ofGroupRecord disks _ group.record recorded⟩

end Field

end InputDocs
