import InputDocs.Proofs.Field.Resolution
import InputDocs.Proofs.Manifest.Links
import InputDocs.Proofs.Text.Find

/-!
# Proofs.Manifest.Signature -- the signature of a row around its type name

A row that mentions a nested type has the signature of a field with that type, so its signature is
the type name in one of three wrappers (`Manifest.wrapped_of_hasRow`). Its parts are looked for from
the end: they are what stands around the last mention of the name. The wrappers end with nothing but
closing parentheses, and so the last mention is the one that was wrapped unless the whole name
consists of closing parentheses (`Manifest.signatureParts_of_hasRow`).
-/

namespace InputDocs

set_option autoImplicit false

/-- What stands before and after the name of an object type in a signature. -/
def objectWrappers : List (String × String) :=
  [("object(", ")"), ("map(object(", "))"), ("list(object(", "))")]

/-- The signature is the name in one of the wrappers. -/
def Wrapped (name signature : String) : Prop :=
  ∃ wrapper ∈ objectWrappers, signature = wrapper.1 ++ name ++ wrapper.2

/-- A wrapper is closed by parentheses only, and by one at least. -/
theorem closing_of_mem_objectWrappers {wrapper : String × String}
    (member : wrapper ∈ objectWrappers) :
    ∃ count, wrapper.2.toList = List.replicate (count + 1) ')' := by
  simp only [objectWrappers, List.mem_cons, List.not_mem_nil, or_false] at member
  rcases member with rfl | rfl | rfl
  · exact ⟨0, rfl⟩
  · exact ⟨1, rfl⟩
  · exact ⟨1, rfl⟩

/-- The signature of a field wraps the name of its type. -/
theorem Field.wrapped_signature {field : Field} {name : String}
    (named : field.typeName? = some name) : Wrapped name field.signature := by
  obtain ⟨_, _, type, _⟩ := field
  cases type with
  | plain => cases named
  | nested collection typeName children =>
      obtain rfl := Option.some_inj.1 named
      have wrapping := mem_wrappings collection typeName
      simpa [Wrapped, objectWrappers] using wrapping

/-! ## Rows -/

/-- The parts of a signature that wraps the name which the row mentions. -/
theorem Row.signatureParts_of_wrapped {row : Row} {name : String}
    (mentioned : row.typeName = some name) (wrapped : Wrapped name row.signature) :
    ∃ before after, row.signatureParts = some (before, after) ∧
      before ++ name ++ after = row.signature ∧
      ((before, after) ∈ objectWrappers ↔ ∃ c ∈ name.toList, c ≠ ')') := by
  obtain ⟨⟨lead, closing⟩, member, shown⟩ := wrapped
  obtain ⟨count, marks⟩ := closing_of_mem_objectWrappers member
  have spelled : row.signature.toList =
      lead.toList ++ name.toList ++ List.replicate (count + 1) ')' := by
    rw [shown, String.toList_append, String.toList_append, ← marks]
  have parts : row.signatureParts = (Text.splitLast name.toList row.signature.toList).map
      (Prod.map String.ofList String.ofList) := by
    simp only [signatureParts, mentioned, Option.bind_eq_bind, Option.bind_some]
    cases Text.splitLast name.toList row.signature.toList <;> rfl
  by_cases other : ∃ c ∈ name.toList, c ≠ ')'
  · rw [spelled, Text.splitLast_before_marks lead.toList _ other, ← marks] at parts
    refine ⟨lead, closing, by simpa using parts, shown.symm, ?_⟩
    exact iff_of_true member other
  · have only : ∀ c ∈ name.toList, c = ')' := by simpa using other
    rw [spelled, Text.splitLast_of_marks lead.toList _ only, ← marks] at parts
    have whole := Text.splitLast_append (Text.splitLast_of_marks lead.toList (count + 1) only)
    refine ⟨lead ++ closing, "", by simpa using parts, ?_, ?_⟩
    · apply String.toList_injective
      simpa [spelled, ← marks] using whole
    · -- Every wrapper has something after the name.
      refine iff_of_false (fun among => ?_) other
      obtain ⟨_, closed⟩ := closing_of_mem_objectWrappers among
      cases closed

/-- The signature of a row that a variable adds wraps the name that the row mentions. -/
theorem Contribution.wrapped_of_hasRow [PatternEngine] {options : Options} {input : Variable}
    {row : Row} {name : String} (has : (ofVariable options input).HasRow row)
    (mentioned : row.typeName = some name) : Wrapped name row.signature := by
  cases has with
  | own same =>
      subst same
      obtain ⟨found, group, named⟩ := typeName_resolvedRow rfl mentioned
      have shown : (ofVariable options input).row.signature = found.field.signature := by
        simp only [ofVariable, group, resolvedRow, named]
      rw [shown]
      exact Field.wrapped_signature named
  | table among member =>
      obtain ⟨field, _, entry⟩ := List.mem_filterMap.1 among
      obtain ⟨_, rfl⟩ := Field.entry?_eq_some_iff.1 entry
      obtain ⟨child, _, rfl⟩ := List.mem_map.1 member
      exact Field.wrapped_signature mentioned

namespace Manifest

variable [PatternEngine] {options : Options} {inputs : List Variable} {row : Row} {name : String}

/-- The signature of a row wraps the name that the row mentions. -/
theorem wrapped_of_hasRow (has : (ofVariables options inputs).HasRow row)
    (mentioned : row.typeName = some name) : Wrapped name row.signature := by
  obtain ⟨input, _, added⟩ := hasRow_ofVariables has
  exact Contribution.wrapped_of_hasRow added mentioned

/-- **The parts of a signature are its wrapper.** A row of any table that mentions a nested type has
its signature parted at a mention of the type name, and the parts are the wrapper of an object type
exactly if the name has any other character than closing parentheses. -/
theorem signatureParts_of_hasRow (has : (ofVariables options inputs).HasRow row)
    (mentioned : row.typeName = some name) :
    ∃ before after, row.signatureParts = some (before, after) ∧
      before ++ name ++ after = row.signature ∧
      ((before, after) ∈ [("object(", ")"), ("map(object(", "))"), ("list(object(", "))")] ↔
        ∃ c ∈ name.toList, c ≠ ')') :=
  row.signatureParts_of_wrapped mentioned (wrapped_of_hasRow has mentioned)

omit [PatternEngine] in
/-- A name that its wrapper mentions before it, and a name that is mentioned again in its wrapper
after it. -/
theorem signatureParts_of_parentheses :
    let _ : PatternEngine := .lenient
    let wrappers := [("object(", ")"), ("map(object(", "))"), ("list(object(", "))")]
    let opening : Variable := { name := "(object(", type := "list(object(\x7b a = any \x7d))" }
    let closing : Variable := { name := "))", type := "map(object(\x7b a = any \x7d))" }
    (∃ row, (ofVariables {} [opening, closing]).HasRow row ∧ row.typeName = some "(object(" ∧
      row.signature = "list(object((object())" ∧
      ∃ before after, row.signatureParts = some (before, after) ∧
        before ++ "(object(" ++ after = row.signature ∧
        ((before, after) ∈ wrappers ↔ ∃ c ∈ "(object(".toList, c ≠ ')')) ∧
      ∃ row, (ofVariables {} [opening, closing]).HasRow row ∧ row.typeName = some "))" ∧
        row.signature = "map(object())))" ∧
        ∃ before after, row.signatureParts = some (before, after) ∧
          before ++ "))" ++ after = row.signature ∧
          ((before, after) ∈ wrappers ↔ ∃ c ∈ "))".toList, c ≠ ')') := by
  intro _ wrappers opening closing
  obtain ⟨⟨row, member, named, shown⟩, row', member', named', shown'⟩ :
      (∃ row ∈ (ofVariables {} [opening, closing]).optional.rows,
        row.typeName = some "(object(" ∧ row.signature = "list(object((object())") ∧
      ∃ row ∈ (ofVariables {} [opening, closing]).optional.rows,
        row.typeName = some "))" ∧ row.signature = "map(object())))" := by
    decide +kernel
  exact ⟨⟨row, .optional member, named, shown, signatureParts_of_hasRow (.optional member) named⟩,
    row', .optional member', named', shown', signatureParts_of_hasRow (.optional member') named'⟩

end Manifest

end InputDocs
