import InputDocs.Proofs.Manifest.Names
import InputDocs.Proofs.Render.Exposed

/-!
# Proofs.Manifest.Tidy -- the texts of a manifest and the variables they come from

The manifest of a list of variables is tidy (`Manifest.tidy_ofVariables`): its notes and reference
links are on one line each, and no name of a nested type has an underscore. This is shown for what
one variable adds and carried through the fold, in which a table only gets more rows
(`Manifest.table_foldl`).

What a tidy manifest still exposes is told by its variables (`Manifest.exposes_ofVariables_iff`).
The tables of inputs have no description, and the rows of nested tables are named by keys; what is
left are the names of the variables and the descriptions of the nested tables.
-/

namespace InputDocs

set_option autoImplicit false

/-! ## One variable -/

namespace Contribution

variable [PatternEngine] {options : Options} {input : Variable} {field : Field}

theorem tidyBelow_of_visited (member : field ∈ visited options input) : field.TidyBelow := by
  obtain ⟨root, top, spelled, resolved, within⟩ := exists_root_of_visited member
  exact Field.tidyBelow_of_within (fun _ none => by cases none) spelled resolved within

theorem underscore_notMem_of_hasRow {row : Row} (has : (ofVariable options input).HasRow row) :
    ∀ name ∈ row.typeName, '_' ∉ name.toList := by
  intro name mentioned
  rw [typeName_of_hasRow has name mentioned]
  exact Field.underscore_notMem_typeName _

/-- A table that a variable adds is tidy and has a row to a line, and so has its name. -/
theorem tidy_of_mem_tables {name : String} {table : Table}
    (member : (name, table) ∈ (ofVariable options input).tables) :
    '_' ∉ name.toList ∧ table.Tidy ∧ ∀ row ∈ table.rows, '\n' ∉ row.name.toList := by
  obtain ⟨field, visits, entry⟩ := List.mem_filterMap.1 member
  obtain ⟨named, rfl⟩ := Field.entry?_eq_some_iff.1 entry
  obtain ⟨documented, children⟩ := tidyBelow_of_visited visits
  refine ⟨?_, ⟨documented.notes, ?_⟩, ?_⟩
  · rw [typeName_of_visited visits field List.mem_cons_self name named]
    exact Field.underscore_notMem_typeName _
  · intro row among
    exact underscore_notMem_of_hasRow (.table member among)
  · intro row among
    obtain ⟨child, below, rfl⟩ := List.mem_map.1 among
    exact (children child below).1

/-- The reference links that a variable adds are on one line each. -/
theorem oneLine_of_mem_references {name target : String}
    (member : (name, target) ∈ (ofVariable options input).references) :
    Note.OneLine ⟨name, target⟩ := by
  rcases List.mem_append.1 member with own | nested
  · exact (Doc.ofDescription_oneLine input.description).references name target own
  · obtain ⟨field, visits, inTable⟩ := List.mem_flatMap.1 nested
    obtain ⟨documented, children⟩ := tidyBelow_of_visited visits
    rcases List.mem_append.1 inTable with ofTable | ofRow
    · exact documented.references name target ofTable
    · obtain ⟨child, below, ofChild⟩ := List.mem_flatMap.1 ofRow
      exact (children child below).2.references name target ofChild

end Contribution

/-! ## All variables -/

namespace Manifest

/-- A table that contributions of one kind add their rows to. -/
theorem table_foldl {table : Manifest → Table} {takes : Contribution → Bool}
    (step : ∀ manifest added, table (add manifest added) =
      if takes added then (table manifest).addRow added.row else table manifest)
    (added : List Contribution) (manifest : Manifest) :
    table (added.foldl add manifest) =
      { table manifest with
        rows := (table manifest).rows ++ (added.filter takes).map Contribution.row } := by
  induction added generalizing manifest with
  | nil => simp
  | cons first rest ih =>
      rw [List.foldl_cons, ih, step, List.filter_cons]
      split <;> simp [Table.addRow]

variable [PatternEngine] {options : Options} {inputs : List Variable}

theorem required_ofVariables (options : Options) (inputs : List Variable) :
    (ofVariables options inputs).required = ⟨"", .none,
      ((inputs.map (Contribution.ofVariable options)).filter Contribution.isRequired).map
        Contribution.row⟩ :=
  table_foldl (fun _ _ => rfl) _ empty

theorem optional_ofVariables (options : Options) (inputs : List Variable) :
    (ofVariables options inputs).optional = ⟨"", .none,
      ((inputs.map (Contribution.ofVariable options)).filter fun added => !added.isRequired).map
        Contribution.row⟩ := by
  refine @table_foldl optional (fun added => !added.isRequired) ?_ _ empty
  intro manifest added
  rw [add]
  cases added.isRequired <;> rfl

/-- The rows of some variables make a tidy table. -/
theorem tidy_of_rows {takes : Contribution → Bool} :
    Table.Tidy ⟨"", .none,
      ((inputs.map (Contribution.ofVariable options)).filter takes).map Contribution.row⟩ := by
  refine ⟨⟨nofun, nofun, nofun⟩, ?_⟩
  intro row member
  obtain ⟨one, among, rfl⟩ := List.mem_map.1 member
  obtain ⟨input, _, rfl⟩ := List.mem_map.1 (List.mem_filter.1 among).1
  exact Contribution.underscore_notMem_of_hasRow (.own rfl)

theorem tidy_ofVariables (options : Options) (inputs : List Variable) :
    (ofVariables options inputs).Tidy where
  required := required_ofVariables options inputs ▸ tidy_of_rows
  optional := optional_ofVariables options inputs ▸ tidy_of_rows
  nested := by
    intro name table found
    obtain ⟨input, _, added⟩ := mem_tables_of_nested found
    obtain ⟨plain, tidy, _⟩ := Contribution.tidy_of_mem_tables added
    exact ⟨plain, tidy⟩
  references := by
    intro name target found
    obtain ⟨input, _, added⟩ := mem_references_of_references found
    exact Contribution.oneLine_of_mem_references added

/-! ## What the tables expose -/

/-- A line that users write and that stands in the Markdown as it is: a line of the name of a
variable that is neither its first nor its last, or a line of the description of a nested type. -/
inductive StandsAlone (options : Options) (inputs : List Variable) (line : List Char) : Prop
  | name {input : Variable} (among : input ∈ inputs)
      (inner : line ∈ Text.innerLines input.name.toList)
  | description {name : String} {table : Table}
      (found : (ofVariables options inputs).nested[name]? = some table)
      (member : line ∈ Text.lines table.description.toList)

/-- The lines that a manifest exposes, in terms of its variables. -/
theorem exposes_ofVariables_iff {line : List Char} (filled : line ≠ []) :
    (ofVariables options inputs).Exposes line ↔ StandsAlone options inputs line := by
  constructor
  · -- A table of inputs has no description, and its rows are named like the variables.
    have ofRows {takes : Contribution → Bool} (exposes : Table.Exposes ⟨"", .none,
        ((inputs.map (Contribution.ofVariable options)).filter takes).map Contribution.row⟩ line) :
        StandsAlone options inputs line := by
      cases exposes with
      | description member => exact absurd (List.mem_singleton.1 member) filled
      | name among inner =>
          obtain ⟨one, member, rfl⟩ := List.mem_map.1 among
          obtain ⟨input, given, rfl⟩ := List.mem_map.1 (List.mem_filter.1 member).1
          rw [Contribution.name_row] at inner
          exact .name given inner
    intro exposes
    cases exposes with
    | required _ exposes => exact ofRows (required_ofVariables options inputs ▸ exposes)
    | optional _ exposes => exact ofRows (optional_ofVariables options inputs ▸ exposes)
    | nested found exposes =>
        cases exposes with
        | description member => exact .description found member
        | name among inner =>
            obtain ⟨input, _, added⟩ := mem_tables_of_nested found
            obtain ⟨_, _, single⟩ := Contribution.tidy_of_mem_tables added
            rw [Text.innerLines_of_notMem (single _ among)] at inner
            cases inner
  · intro alone
    cases alone with
    | @name input given inner =>
        have added := List.mem_map_of_mem (f := Contribution.ofVariable options) given
        rw [← Contribution.name_row options input] at inner
        cases kind : (Contribution.ofVariable options input).isRequired with
        | true =>
            have row : (Contribution.ofVariable options input).row ∈
                (ofVariables options inputs).required.rows := by
              rw [required_ofVariables]
              exact List.mem_map_of_mem (List.mem_filter.2 ⟨added, kind⟩)
            exact .required (List.ne_nil_of_mem row) (.name row inner)
        | false =>
            have row : (Contribution.ofVariable options input).row ∈
                (ofVariables options inputs).optional.rows := by
              rw [optional_ofVariables]
              exact List.mem_map_of_mem (List.mem_filter.2 ⟨added, by rw [kind]; rfl⟩)
            exact .optional (List.ne_nil_of_mem row) (.name row inner)
    | description found member => exact .nested found (.description member)

end Manifest

end InputDocs
