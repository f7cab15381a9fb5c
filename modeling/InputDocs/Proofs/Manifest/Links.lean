import InputDocs.Proofs.Field.Walk
import InputDocs.Proofs.Manifest.LastEntry

/-!
# Proofs.Manifest.Links -- every link to a nested type has its table

A row that mentions a nested type is shown with a link to the table of that type. Rows and tables
are made by different functions, and a table may be replaced by a later one of the same name, so
that the table is there has to be shown in two steps.

* One variable: the types that its row and the rows of its tables mention are among the tables it
  adds (`Contribution.ofVariable_linked`). This is the walk over the fields: what the row mentions
  is the type of the field the walk starts from, and the rows of a table are children of a field
  that was visited (`Field.child_mem_nestedFields`).
* All variables: every row of the manifest was added by some variable (`hasRow_ofVariables`), and
  the nested types are those that some variable adds (`mem_nested_ofVariables`). A table that is
  replaced keeps its key, so no link is lost.
-/

namespace InputDocs

set_option autoImplicit false

/-! ## One variable -/

namespace Contribution

/-- The row is the variable's own or stands in one of the tables it adds. -/
inductive HasRow (added : Contribution) (row : Row) : Prop
  | own (same : row = added.row)
  | table {name : String} {table : Table} (among : (name, table) ∈ added.tables)
      (member : row ∈ table.rows)

/-- The type names of the tables that are added. -/
def typeNames (added : Contribution) : List String := added.tables.map Prod.fst

/-- The rows link to nothing but tables that are added with them. -/
def Linked (added : Contribution) : Prop :=
  ∀ row, added.HasRow row → ∀ name ∈ row.typeName, name ∈ added.typeNames

end Contribution

theorem Field.entry?_eq_some_iff {field : Field} {name : String} {table : Table} :
    Field.entry? field = some (name, table) ↔ field.typeName? = some name ∧ field.table = table := by
  rw [ Field.entry?, Option.map_eq_some_iff]
  constructor
  · rintro ⟨found, named, same⟩
    obtain ⟨rfl, rfl⟩ := Prod.mk.inj same
    exact ⟨named, rfl⟩
  · rintro ⟨named, rfl⟩
    exact ⟨name, named, rfl⟩

namespace Contribution

variable [PatternEngine] {options : Options} {input : Variable}

/-- The fields that a variable's type has tables for, in the order of the walk. -/
def visited (options : Options) (input : Variable) : List Field :=
  ((input.group options).outcome.toOption.join.map fun found => found.field.nestedFields).getD []

theorem group_eq_some_iff {group : Group} :
    (input.group options).outcome.toOption.join = some group ↔
      (input.group options).outcome = .ok (some group) := by
  cases (input.group options).outcome with
  | error error => simp [Except.toOption]
  | ok found => simp [Except.toOption]

/-- The visited fields are those of the group, at any depth, that have a type of their own. -/
theorem mem_visited_iff {field : Field} :
    field ∈ visited options input ↔ ∃ group,
      (input.group options).outcome = .ok (some group) ∧ Field.Within field group.field ∧
        field.typeName?.isSome = true := by
  simp only [← group_eq_some_iff, visited]
  cases (input.group options).outcome.toOption.join with
  | none => simp
  | some group => simp [Field.mem_nestedFields_iff]

theorem mem_typeNames_iff {name : String} :
    name ∈ (ofVariable options input).typeNames ↔
      ∃ field ∈ visited options input, field.typeName? = some name := by
  rw [typeNames, List.mem_map]
  constructor
  · rintro ⟨⟨_, table⟩, among, rfl⟩
    obtain ⟨field, member, entry⟩ := List.mem_filterMap.1 among
    exact ⟨field, member, (Field.entry?_eq_some_iff.1 entry).1⟩
  · rintro ⟨field, member, named⟩
    have entry := Field.entry?_eq_some_iff.2 ⟨named, rfl⟩
    exact ⟨_, List.mem_filterMap.2 ⟨field, member, entry⟩, rfl⟩

theorem child_mem_visited {field child : Field} (member : field ∈ visited options input)
    (below : child ∈ field.children) (named : child.typeName?.isSome = true) :
    child ∈ visited options input := by
  unfold visited at member ⊢
  cases found : (input.group options).outcome.toOption.join with
  | none =>
      rw [found] at member
      cases member
  | some group =>
      rw [found] at member
      exact Field.child_mem_nestedFields member below named

omit [PatternEngine] in
/-- A row that mentions a type was given it by the variable's group. -/
theorem typeName_resolvedRow {row : Row} {group : Option Group} {name : String}
    (plain : row.typeName = none) (mentioned : (resolvedRow row group).typeName = some name) :
    ∃ found, group = some found ∧ found.field.typeName? = some name := by
  cases group with
  | none =>
      rw [resolvedRow, plain] at mentioned
      cases mentioned
  | some found =>
      refine ⟨found, rfl, ?_⟩
      rw [resolvedRow] at mentioned
      split at mentioned
      · rename_i typeName named
        rw [named, ← mentioned]
      · rw [plain] at mentioned
        cases mentioned

/-- **A variable adds a table for every type that its rows mention.** -/
theorem ofVariable_linked (options : Options) (input : Variable) :
    (ofVariable options input).Linked := by
  rintro row has name mentioned
  rw [mem_typeNames_iff]
  cases has with
  | own same =>
      subst same
      obtain ⟨found, group, named⟩ := typeName_resolvedRow rfl mentioned
      have visits : found.field ∈ visited options input := by
        rw [visited, group]
        exact Field.mem_nestedFields_iff.2 ⟨.self, by rw [named, Option.isSome_some]⟩
      exact ⟨found.field, visits, named⟩
  | table among member =>
      obtain ⟨field, visits, entry⟩ := List.mem_filterMap.1 among
      obtain ⟨_, rfl⟩ := Field.entry?_eq_some_iff.1 entry
      obtain ⟨child, below, rfl⟩ := List.mem_map.1 member
      have named : child.typeName? = some name := mentioned
      exact ⟨child, child_mem_visited visits below (by rw [named, Option.isSome_some]), named⟩

end Contribution

/-! ## All variables -/

namespace Manifest

/-- The row stands in one of the tables of the manifest. -/
inductive HasRow (manifest : Manifest) (row : Row) : Prop
  | required (member : row ∈ manifest.required.rows)
  | optional (member : row ∈ manifest.optional.rows)
  | nested {name : String} {table : Table} (found : manifest.nested[name]? = some table)
      (member : row ∈ table.rows)

/-- Every type that a row links to has a table. -/
def Linked (manifest : Manifest) : Prop :=
  ∀ row, manifest.HasRow row → ∀ name ∈ row.typeName, name ∈ manifest.nested

theorem getElem?_insertMany_cases {α : Type} {index : Index α} {added : List (String × α)}
    {name : String} {entry : α} (found : (index.insertMany added)[name]? = some entry) :
    index[name]? = some entry ∨ (name, entry) ∈ added := by
  rw [getElem?_insertMany, Option.or_eq_some_iff] at found
  rcases found with new | ⟨_, old⟩
  · exact .inr (mem_of_lastEntry new)
  · exact .inl old

/-- Adding brings no rows but those that are added. -/
theorem hasRow_add {manifest : Manifest} {added : Contribution} {row : Row}
    (has : (manifest.add added).HasRow row) : manifest.HasRow row ∨ added.HasRow row := by
  cases has with
  | required member =>
      rw [add] at member
      split at member
      · rcases List.mem_append.1 member with old | new
        · exact .inl (.required old)
        · exact .inr (.own (List.mem_singleton.1 new))
      · exact .inl (.required member)
  | optional member =>
      rw [add] at member
      split at member
      · exact .inl (.optional member)
      · rcases List.mem_append.1 member with old | new
        · exact .inl (.optional old)
        · exact .inr (.own (List.mem_singleton.1 new))
  | nested found member =>
      rcases getElem?_insertMany_cases found with old | new
      · exact .inl (.nested old member)
      · exact .inr (.table new member)

theorem mem_nested_add {manifest : Manifest} {added : Contribution} {name : String} :
    name ∈ (manifest.add added).nested ↔ name ∈ manifest.nested ∨ name ∈ added.typeNames := by
  rw [add, Std.ExtTreeMap.mem_insertMany_list, List.contains_iff_mem, Contribution.typeNames]

theorem hasRow_foldl {added : List Contribution} {manifest : Manifest} {row : Row}
    (has : (added.foldl add manifest).HasRow row) :
    manifest.HasRow row ∨ ∃ one ∈ added, one.HasRow row := by
  induction added generalizing manifest with
  | nil => exact .inl has
  | cons first rest ih =>
      rcases ih has with before | ⟨one, member, later⟩
      · rcases hasRow_add before with old | new
        · exact .inl old
        · exact .inr ⟨first, List.mem_cons_self, new⟩
      · exact .inr ⟨one, List.mem_cons_of_mem _ member, later⟩

theorem mem_nested_foldl {added : List Contribution} {manifest : Manifest} {name : String} :
    name ∈ (added.foldl add manifest).nested ↔
      name ∈ manifest.nested ∨ ∃ one ∈ added, name ∈ one.typeNames := by
  induction added generalizing manifest with
  | nil => simp
  | cons first rest ih =>
      rw [List.foldl_cons, ih, mem_nested_add, or_assoc]
      simp only [List.mem_cons, exists_eq_or_imp]

theorem not_hasRow_empty (row : Row) : ¬ empty.HasRow row := by
  rintro (member | member | ⟨found, _⟩)
  · cases member
  · cases member
  · cases found

variable [PatternEngine] {options : Options} {inputs : List Variable}

/-- Every row of a manifest was added by some variable. -/
theorem hasRow_ofVariables {row : Row} (has : (ofVariables options inputs).HasRow row) :
    ∃ input ∈ inputs, (Contribution.ofVariable options input).HasRow row := by
  rcases hasRow_foldl has with start | ⟨one, member, added⟩
  · exact absurd start (not_hasRow_empty row)
  · obtain ⟨input, among, rfl⟩ := List.mem_map.1 member
    exact ⟨input, among, added⟩

/-- The nested types of a manifest are those that some variable adds. -/
theorem mem_nested_ofVariables {name : String} :
    name ∈ (ofVariables options inputs).nested ↔
      ∃ input ∈ inputs, name ∈ (Contribution.ofVariable options input).typeNames := by
  rw [ofVariables, mem_nested_foldl]
  constructor
  · rintro (start | ⟨one, member, named⟩)
    · exact absurd start Std.ExtTreeMap.not_mem_empty
    · obtain ⟨input, among, rfl⟩ := List.mem_map.1 member
      exact ⟨input, among, named⟩
  · rintro ⟨input, among, named⟩
    exact .inr ⟨_, List.mem_map_of_mem among, named⟩

theorem mem_tables_of_nested {name : String} {table : Table}
    (found : (ofVariables options inputs).nested[name]? = some table) :
    ∃ input ∈ inputs, (name, table) ∈ (Contribution.ofVariable options input).tables :=
  exists_entry_of_ofVariables (fun _ _ => rfl) rfl found

theorem mem_references_of_references {name target : String}
    (found : (ofVariables options inputs).references[name]? = some target) :
    ∃ input ∈ inputs, (name, target) ∈ (Contribution.ofVariable options input).references :=
  exists_entry_of_ofVariables (fun _ _ => rfl) rfl found

/-- **No link dangles.** In the manifest of any variables, every type that a row of any table
mentions has a table of its own. -/
theorem ofVariables_linked (options : Options) (inputs : List Variable) :
    (ofVariables options inputs).Linked := by
  intro row has name mentioned
  obtain ⟨input, among, added⟩ := hasRow_ofVariables has
  have named := Contribution.ofVariable_linked options input row added name mentioned
  exact mem_nested_ofVariables.2 ⟨input, among, named⟩

example :
    let _ : PatternEngine := .lenient
    let net : Variable :=
      { name := "net", type := "map(object(\x7b dns = object(\x7b ip = any \x7d) \x7d))" }
    let manifest := ofVariables {} [net]
    manifest.optional.rows.map Row.typeName = [some "Net"] ∧
      manifest.nested.keys = ["Dns", "Net"] := by
  decide +kernel

end Manifest

end InputDocs
