import InputDocs.Field

/-!
# Proofs.Field.Walk -- the fields that the walk over a field visits

`Within inner field` says that `inner` is the field itself or stands somewhere under it. The walk
`nestedFields` returns exactly those of them that have an object type of their own
(`mem_nestedFields_iff`). So what the walk returns is closed under going down: a child with a type
name of a field that was visited has been visited too (`child_mem_nestedFields`).
-/

namespace InputDocs.Field

set_option autoImplicit false

/-- What holds of a field whenever it holds of its children holds of every field. -/
theorem child_induction {motive : Field → Prop}
    (step : ∀ field, (∀ child ∈ field.children, motive child) → motive field) (field : Field) :
    motive field := by
  refine @Field.rec motive (fun type => ∀ name doc presence, motive ⟨name, doc, type, presence⟩)
    (fun fields => ∀ field ∈ fields, motive field) ?_ ?_ ?_ ?_ ?_ field
  · intro name doc type presence holds
    exact holds name doc presence
  · intro signature name doc presence
    refine step _ ?_
    intro child member
    cases member
  · intro collection typeName fields holds name doc presence
    exact step _ holds
  · intro field member
    cases member
  · intro first rest holds_first holds_rest
    exact List.forall_mem_cons.2 ⟨holds_first, holds_rest⟩

/-! ## Below a field -/

/-- `inner` is the field or stands under it, at any depth. -/
inductive Within (inner : Field) : Field → Prop
  | self : Within inner inner
  | child {field child : Field} (member : child ∈ field.children) (within : Within inner child) :
      Within inner field

theorem Within.of_child {inner field child : Field} (within : Within inner field)
    (member : child ∈ inner.children) : Within child field := by
  induction within with
  | self => exact .child member .self
  | child between _ ih => exact .child between ih

/-- Under a field there are children of fields only. -/
theorem Within.eq_or_child {inner field : Field} (within : Within inner field) :
    inner = field ∨ ∃ parent, Within parent field ∧ inner ∈ parent.children := by
  induction within with
  | self => exact .inl rfl
  | @child field child member _ ih =>
      rcases ih with rfl | ⟨parent, above, below⟩
      · exact .inr ⟨field, .self, member⟩
      · exact .inr ⟨parent, .child member above, below⟩

/-! ## The walk -/

theorem nestedAmong_eq_flatMap (fields : List Field) :
    nestedAmong fields = fields.flatMap nestedFields := by
  induction fields with
  | nil => rfl
  | cons first rest ih => rw [nestedAmong, List.flatMap_cons, ih]

theorem nestedFields_eq (field : Field) :
    field.nestedFields =
      (if field.typeName?.isSome then [field] else []) ++ field.children.flatMap nestedFields := by
  obtain ⟨name, doc, type, presence⟩ := field
  cases type with
  | plain signature => rfl
  | nested collection typeName fields =>
      rw [nestedFields, nestedAmong_eq_flatMap]
      rfl

/-- **The walk visits exactly the fields below with a type of their own.** -/
theorem mem_nestedFields_iff {inner field : Field} :
    inner ∈ field.nestedFields ↔ Within inner field ∧ inner.typeName?.isSome = true := by
  induction field using child_induction with
  | step field each =>
      rw [nestedFields_eq, List.mem_append, List.mem_flatMap]
      constructor
      · rintro (own | ⟨child, member, visited⟩)
        · rw [List.mem_ite_nil_right, List.mem_singleton] at own
          obtain ⟨named, rfl⟩ := own
          exact ⟨.self, named⟩
        · obtain ⟨within, named⟩ := (each child member).1 visited
          exact ⟨.child member within, named⟩
      · rintro ⟨within, named⟩
        cases within with
        | self =>
            refine .inl ?_
            rw [if_pos named]
            exact List.mem_cons_self
        | child member within => exact .inr ⟨_, member, (each _ member).2 ⟨within, named⟩⟩

/-- A child with a type of its own is visited together with its parent. -/
theorem child_mem_nestedFields {field inner child : Field} (visited : inner ∈ field.nestedFields)
    (member : child ∈ inner.children) (named : child.typeName?.isSome = true) :
    child ∈ field.nestedFields := by
  obtain ⟨within, _⟩ := mem_nestedFields_iff.1 visited
  exact mem_nestedFields_iff.2 ⟨within.of_child member, named⟩

end InputDocs.Field
