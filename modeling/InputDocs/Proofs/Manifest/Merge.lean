import InputDocs.Proofs.Manifest.Tidy

/-!
# Proofs.Manifest.Merge -- the manifest of two lists put together

A manifest is built by adding one contribution after the other, and a contribution looks at nothing
that is there already. So adding to the second of two manifests and then merging is the same as
merging and then adding (`Manifest.add_merge`), and the manifest of two lists is the merge of their
manifests (`Manifest.ofVariables_append`). For the maps this is a law of the library for one entry,
carried through a list of them (`Manifest.insertMany_union`).

A variable whose type cannot be read or resolved adds a row and the reference links of its
description (`Manifest.undocumented`), and between the manifests of the variables around it this is
all that there is of it.
-/

namespace InputDocs

set_option autoImplicit false

/-! ## Variables that cannot be documented -/

/-- The variable has a type that cannot be read or cannot be resolved. -/
def Variable.Fails [PatternEngine] (options : Options) (input : Variable) : Prop :=
  ∃ text ∈ input.type,
    (∃ error, TypeExpr.parse options.maxDepth text = .error error) ∨
    ∃ root error, TypeExpr.parse options.maxDepth text = .ok root ∧
      (Field.resolveGroup options.policy root input.name).outcome = .error error

/-- What such a variable leaves: a row that shows the type as it is written and links to no table,
and the reference links of the description. -/
def Manifest.undocumented [PatternEngine] (input : Variable) : Manifest :=
  let doc := Doc.ofDescription input.description
  { required := ⟨"", .none, if input.isRequired then [input.plainRow doc] else []⟩
    optional := ⟨"", .none, if input.isRequired then [] else [input.plainRow doc]⟩
    nested := ∅
    references := Std.ExtTreeMap.ofList doc.references compare }

namespace Contribution

variable [PatternEngine] {options : Options} {input : Variable}

theorem document_of_fails {name text : String}
    (fails : (∃ error, TypeExpr.parse options.maxDepth text = .error error) ∨
      ∃ root error, TypeExpr.parse options.maxDepth text = .ok root ∧
        (Field.resolveGroup options.policy root name).outcome = .error error) :
    ∃ error, (document options name text).outcome = .error error := by
  rcases fails with ⟨error, unread⟩ | ⟨root, error, read, unresolved⟩
  · rw [document, unread]
    exact ⟨_, rfl⟩
  · rw [document, read]
    refine ⟨.duplicate error, ?_⟩
    simp only [Traced.mapError, unresolved]
    rfl

theorem group_of_fails (fails : input.Fails options) :
    (input.group options).outcome.toOption.join = none := by
  obtain ⟨text, typed, reason⟩ := fails
  obtain ⟨error, failed⟩ := document_of_fails reason
  unfold Variable.group
  rw [Option.mem_def.1 typed]
  dsimp only
  split
  · rfl
  · rw [failed]
    rfl

/-- A variable that cannot be documented adds its plain row and no table. -/
theorem exists_ofVariable_of_fails (fails : input.Fails options) :
    ∃ events, ofVariable options input =
      ⟨input.isRequired, input.plainRow (Doc.ofDescription input.description), [],
        (Doc.ofDescription input.description).references, events⟩ := by
  refine ⟨(ofVariable options input).events, ?_⟩
  unfold ofVariable
  simp only [group_of_fails fails, resolvedRow, Option.map_none, Option.getD_none,
    List.filterMap_nil, List.flatMap_nil, List.append_nil]

end Contribution

namespace Manifest

/-! ## Maps -/

section Maps

variable {α : Type}

theorem union_empty (index : Index α) : index ∪ ∅ = index := by
  apply Std.ExtTreeMap.ext_getElem?
  intro name
  simp [Std.ExtTreeMap.getElem?_union]

/-- Entries are put into a union by putting them into its second part. -/
theorem insertMany_union (first second : Index α) (entries : List (String × α)) :
    (first ∪ second).insertMany entries = first ∪ second.insertMany entries := by
  induction entries generalizing second with
  | nil => simp
  | cons entry rest ih =>
      obtain ⟨name, value⟩ := entry
      have one : first ∪ second.insert name value = (first ∪ second).insert name value :=
        @Std.ExtTreeMap.union_insert_right_eq_insert_union _ _ _ first second _ ⟨name, value⟩
      rw [Std.ExtTreeMap.insertMany_cons, Std.ExtTreeMap.insertMany_cons, ← ih, one]

end Maps

/-! ## Merging -/

theorem merge_empty (manifest : Manifest) : manifest.merge empty = manifest := by
  simp [merge, empty, Table.empty, union_empty]

/-- What is added to a merge may be added to its second part. -/
theorem add_merge (first second : Manifest) (added : Contribution) :
    (first.merge second).add added = first.merge (second.add added) := by
  unfold merge add
  rw [insertMany_union, insertMany_union]
  cases added.isRequired <;> simp [Table.addRow]

theorem foldl_add_merge (first second : Manifest) (added : List Contribution) :
    added.foldl add (first.merge second) = first.merge (added.foldl add second) := by
  induction added generalizing second with
  | nil => rfl
  | cons one rest ih => rw [List.foldl_cons, List.foldl_cons, add_merge, ih]

variable [PatternEngine] {options : Options}

theorem ofVariables_of_fails {input : Variable} (fails : input.Fails options) :
    ofVariables options [input] = undocumented input := by
  obtain ⟨events, added⟩ := Contribution.exists_ofVariable_of_fails fails
  rw [ofVariables, List.map_singleton, added, List.foldl_cons, List.foldl_nil, add, undocumented,
    Std.ExtTreeMap.ofList_eq_insertMany_empty]
  cases input.isRequired <;> simp [empty, Table.empty, Table.addRow]

theorem filter_map_ofVariable (options : Options) (takes : Bool → Bool) (inputs : List Variable) :
    ((inputs.map (Contribution.ofVariable options)).filter (takes ·.isRequired)).map
        Contribution.row =
      (inputs.filter (takes ·.isRequired)).map fun input =>
        (Contribution.ofVariable options input).row := by
  rw [List.filter_map, List.map_map]
  rfl

/-- **Manifests of two lists merge.** So each variable has one row, under its own name, in the
table it belongs to and in the order of the variables. A variable whose type cannot be read or
resolved is between the manifests of those before and after it with no more than a plain row and
the reference links of its description. -/
theorem ofVariables_append (options : Options) :
    (∀ first second, ofVariables options (first ++ second) =
      (ofVariables options first).merge (ofVariables options second)) ∧
    (∀ inputs,
      (ofVariables options inputs).required.rows =
        (inputs.filter (·.isRequired)).map (fun input =>
          (Contribution.ofVariable options input).row) ∧
      (ofVariables options inputs).optional.rows =
        (inputs.filter (!·.isRequired)).map (fun input =>
          (Contribution.ofVariable options input).row) ∧
      ∀ input ∈ inputs, (Contribution.ofVariable options input).row.name = input.name) ∧
    ∀ before input after, Variable.Fails options input →
      ofVariables options (before ++ input :: after) =
        ((ofVariables options before).merge (undocumented input)).merge
          (ofVariables options after) := by
  have parts (first second : List Variable) : ofVariables options (first ++ second) =
      (ofVariables options first).merge (ofVariables options second) := by
    unfold ofVariables
    rw [List.map_append, List.foldl_append, ← foldl_add_merge, merge_empty]
  refine ⟨parts, fun inputs => ⟨?_, ?_, fun input _ => Contribution.name_row options input⟩, ?_⟩
  · rw [required_ofVariables]
    exact filter_map_ofVariable options id inputs
  · rw [optional_ofVariables]
    exact filter_map_ofVariable options not inputs
  · intro before input after fails
    have whole : before ++ input :: after = (before ++ [input]) ++ after := by simp
    rw [whole, parts, parts, ofVariables_of_fails fails]

/-- A variable with a type that ends in the middle. -/
def unclosed : Variable := { name := "broken", type := some "object(\x7b a = ", isRequired := true }

omit [PatternEngine] in
theorem unclosed_between :
    let _ : PatternEngine := .lenient
    let zone : Variable := { name := "zone", type := some "string" }
    let disk : Variable := { name := "disk", type := some "object(\x7b size = number \x7d)" }
    Variable.Fails {} unclosed ∧
      (undocumented unclosed).required.rows.map (fun row => (row.signature, row.typeName)) =
        [("object(\x7b a = ", none)] ∧
      ofVariables {} [zone, unclosed, disk] =
        ((ofVariables {} [zone]).merge (undocumented unclosed)).merge (ofVariables {} [disk]) := by
  intro _ zone disk
  have unread : TypeExpr.parse TypeExpr.defaultDepth "object(\x7b a = " =
      .error (.unexpected ⟨13, 1, 14⟩ .typeExpression none) := by
    with_unfolding_all rfl
  have fails : Variable.Fails {} unclosed := ⟨_, rfl, .inl ⟨_, unread⟩⟩
  exact ⟨fails, rfl, (ofVariables_append {}).2.2 [zone] unclosed [disk] fails⟩

end Manifest

end InputDocs
