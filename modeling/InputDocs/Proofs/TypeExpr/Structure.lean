import InputDocs.TypeExpr

/-!
# Proofs.TypeExpr.Structure -- induction on expressions, and expressions that fit

An expression contains lists of expressions and lists of properties, so the induction that Lean
generates has a motive for each of the four types. `TypeExpr.nested_induction` is the one that is
used everywhere else: what holds of every argument holds of the call, and what holds of every
value holds of the object literal.

`NoEmptyComment` excludes the one comment that writes no token, a run of no `///` lines; with it
the tokens of an expression tell everything about it. `Fits room` adds that no more than `room`
calls and object literals are nested in the expression. Its laws at a call and at an object
literal (`fits_call`, `fits_object`) go one level down, member by member.
-/

namespace InputDocs

set_option autoImplicit false

namespace TypeExpr

/-- Induction on expressions: over the arguments of a call and the values of an object literal. -/
theorem nested_induction {motive : TypeExpr → Prop}
    (call : ∀ name arguments, (∀ argument ∈ arguments, motive argument) →
      motive (call name arguments))
    (object : ∀ properties, (∀ property ∈ properties, motive property.value) →
      motive (object properties))
    (word : ∀ name, motive (word name)) (number : ∀ text, motive (number text))
    (quoted : ∀ text, motive (quoted text)) (expr : TypeExpr) : motive expr := by
  refine @TypeExpr.rec motive (fun arguments => ∀ argument ∈ arguments, motive argument)
    (fun properties => ∀ property ∈ properties, motive property.value)
    (fun property => motive property.value)
    call object word number quoted ?_ ?_ ?_ ?_ (fun _ _ _ value => value) expr
  · intro argument member
    cases member
  · intro first rest holds_first holds_rest
    exact List.forall_mem_cons.2 ⟨holds_first, holds_rest⟩
  · intro property member
    cases member
  · intro first rest holds_first holds_rest
    exact List.forall_mem_cons.2 ⟨holds_first, holds_rest⟩

/-! ## Depth, member by member -/

theorem argumentDepth_le_iff {arguments : List TypeExpr} {n : Nat} :
    argumentDepth arguments ≤ n ↔ ∀ argument ∈ arguments, argument.depth ≤ n := by
  induction arguments with
  | nil => simp [argumentDepth]
  | cons first rest ih =>
      rw [argumentDepth, Nat.max_le, List.forall_mem_cons, ih]

theorem propertyDepth_le_iff {properties : List (Property TypeExpr)} {n : Nat} :
    propertyDepth properties ≤ n ↔ ∀ property ∈ properties, property.value.depth ≤ n := by
  induction properties with
  | nil => simp [propertyDepth]
  | cons first rest ih =>
      rw [propertyDepth, Nat.max_le, List.forall_mem_cons, ih]

/-! ## Comments -/

mutual

/-- No object literal in the expression has a comment of no lines. -/
def NoEmptyComment : TypeExpr → Prop
  | call _ arguments => argumentsNoEmptyComment arguments
  | object properties => propertiesNoEmptyComment properties
  | word _ | number _ | quoted _ => True

/-- No argument has an empty comment in it. -/
def argumentsNoEmptyComment : List TypeExpr → Prop
  | [] => True
  | first :: rest => first.NoEmptyComment ∧ argumentsNoEmptyComment rest

/-- No property has an empty comment before it or in its value. -/
def propertiesNoEmptyComment : List (Property TypeExpr) → Prop
  | [] => True
  | ⟨comment, _, value⟩ :: rest =>
    comment ≠ some (.lines []) ∧ value.NoEmptyComment ∧ propertiesNoEmptyComment rest

end

theorem argumentsNoEmptyComment_iff {arguments : List TypeExpr} :
    argumentsNoEmptyComment arguments ↔ ∀ argument ∈ arguments, argument.NoEmptyComment := by
  induction arguments with
  | nil => simp [argumentsNoEmptyComment]
  | cons first rest ih =>
      rw [argumentsNoEmptyComment, List.forall_mem_cons, ih]

theorem propertiesNoEmptyComment_iff {properties : List (Property TypeExpr)} :
    propertiesNoEmptyComment properties ↔ ∀ property ∈ properties,
      property.comment ≠ some (.lines []) ∧ property.value.NoEmptyComment := by
  induction properties with
  | nil => simp [propertiesNoEmptyComment]
  | cons first rest ih =>
      rw [propertiesNoEmptyComment, List.forall_mem_cons, ih, and_assoc]

end TypeExpr

/-! ## Expressions that fit -/

/-- The expression can be read where `room` more calls and object literals may be opened. -/
structure TypeExpr.Fits (room : Nat) (expr : TypeExpr) : Prop where
  noEmptyComment : expr.NoEmptyComment
  depth_le : expr.depth ≤ room

/-- The property can be read inside an object literal that leaves `room`. -/
structure Property.Fits (room : Nat) (property : Property TypeExpr) : Prop where
  comment_ne : property.comment ≠ some (.lines [])
  value : property.value.Fits room

namespace TypeExpr

/-- A call fits where it can be opened and its arguments fit in what is then left. -/
theorem fits_call {room : Nat} {name : String} {arguments : List TypeExpr} :
    (call name arguments).Fits room ↔
      0 < room ∧ ∀ argument ∈ arguments, argument.Fits (room - 1) := by
  have depth_le : (call name arguments).depth ≤ room ↔
      0 < room ∧ ∀ argument ∈ arguments, argument.depth ≤ room - 1 := by
    rw [depth, ← argumentDepth_le_iff]
    omega
  constructor
  · rintro ⟨comments, depth⟩
    rw [NoEmptyComment, argumentsNoEmptyComment_iff] at comments
    obtain ⟨opens, depths⟩ := depth_le.1 depth
    exact ⟨opens, fun argument member => ⟨comments argument member, depths argument member⟩⟩
  · rintro ⟨opens, fits⟩
    refine ⟨?_, depth_le.2 ⟨opens, fun argument member => (fits argument member).depth_le⟩⟩
    rw [NoEmptyComment, argumentsNoEmptyComment_iff]
    exact fun argument member => (fits argument member).noEmptyComment

/-- An object literal fits where it can be opened and its properties fit in what is then left. -/
theorem fits_object {room : Nat} {properties : List (Property TypeExpr)} :
    (object properties).Fits room ↔
      0 < room ∧ ∀ property ∈ properties, property.Fits (room - 1) := by
  have depth_le : (object properties).depth ≤ room ↔
      0 < room ∧ ∀ property ∈ properties, property.value.depth ≤ room - 1 := by
    rw [depth, ← propertyDepth_le_iff]
    omega
  constructor
  · rintro ⟨comments, depth⟩
    rw [NoEmptyComment, propertiesNoEmptyComment_iff] at comments
    obtain ⟨opens, depths⟩ := depth_le.1 depth
    refine ⟨opens, fun property member => ?_⟩
    obtain ⟨comment, value⟩ := comments property member
    exact ⟨comment, value, depths property member⟩
  · rintro ⟨opens, fits⟩
    refine ⟨?_, depth_le.2 ⟨opens, fun property member => (fits property member).value.depth_le⟩⟩
    rw [NoEmptyComment, propertiesNoEmptyComment_iff]
    intro property member
    exact ⟨(fits property member).comment_ne, (fits property member).value.noEmptyComment⟩

theorem fits_word (room : Nat) (name : String) : (word name).Fits room :=
  ⟨trivial, Nat.zero_le room⟩

theorem fits_number (room : Nat) (text : String) : (number text).Fits room :=
  ⟨trivial, Nat.zero_le room⟩

theorem fits_quoted (room : Nat) (text : String) : (quoted text).Fits room :=
  ⟨trivial, Nat.zero_le room⟩

end TypeExpr

end InputDocs
