import InputDocs.Proofs.Field.Spelled
import InputDocs.Proofs.Manifest.Links

/-!
# Proofs.Manifest.Names -- the names in a manifest and where they come from

Three kinds of names stand in a manifest: names of inputs, names of nested types and keys of their
tables. All of them come from two sources, the names of the variables, which are any texts, and the
keys of properties, which were read as words.

* A row that mentions a nested type is named like the field that has the type, so the type is named
  after the row (`Manifest.typeName_of_hasRow`).
* The rows of nested tables are named by words (`Manifest.word_of_mem_rows`).
* A nested table is named after a variable or after a word (`Manifest.exists_name_of_mem_nested`).
-/

namespace InputDocs

set_option autoImplicit false

/-! ## One variable -/

namespace Contribution

variable [PatternEngine] {options : Options} {input : Variable} {field : Field}

/-- What a type documents to is resolved from the expression it reads as. -/
theorem exists_root_of_document {name text : String} {group : Group}
    (done : (document options name text).outcome = .ok (some group)) :
    ∃ root, TypeExpr.Spelled root ∧
      (Field.resolve options.policy ⟨none, name, root⟩).outcome = .ok group.field := by
  unfold document at done
  split at done
  · cases done
  · rename_i root read
    refine ⟨root, TypeExpr.spelled_of_parse read, Field.resolve_of_resolveGroup ?_⟩
    cases resolved : (Field.resolveGroup options.policy root name).outcome with
    | error error =>
        rw [Traced.mapError, resolved] at done
        cases done
    | ok found =>
        rw [Traced.mapError, resolved] at done
        cases done
        rfl

/-- The field of a variable's group is resolved from what the variable's type reads as. -/
theorem exists_root_of_group {group : Group}
    (found : (input.group options).outcome.toOption.join = some group) :
    ∃ root, TypeExpr.Spelled root ∧
      (Field.resolve options.policy ⟨none, input.name, root⟩).outcome = .ok group.field := by
  cases outcome : (input.group options).outcome with
  | error error =>
      rw [outcome] at found
      cases found
  | ok documented =>
      rw [outcome] at found
      obtain rfl : documented = some group := found
      unfold Variable.group at outcome
      split at outcome
      · cases outcome
      · split at outcome
        · cases outcome
        · exact exists_root_of_document outcome

/-- A visited field stands in a tree that is resolved from what the variable's type reads as. -/
theorem exists_root_of_visited (member : field ∈ visited options input) :
    ∃ root top, TypeExpr.Spelled root ∧
      (Field.resolve options.policy ⟨none, input.name, root⟩).outcome = .ok top ∧
        Field.Within field top := by
  unfold visited at member
  cases found : (input.group options).outcome.toOption.join with
  | none =>
      rw [found] at member
      cases member
  | some group =>
      rw [found] at member
      have within := (Field.mem_nestedFields_iff.1 member).1
      obtain ⟨root, spelled, resolved⟩ := exists_root_of_group found
      exact ⟨root, group.field, spelled, resolved, within⟩

/-- A field in the table of a visited one is named by a word. -/
theorem word_of_child {child : Field} (member : field ∈ visited options input)
    (below : child ∈ field.children) : (Token.word child.name).IsLexeme := by
  obtain ⟨root, top, spelled, resolved, within⟩ := exists_root_of_visited member
  obtain ⟨source, ⟨key, _, _⟩, fromSource⟩ :=
    Field.exists_spelled_of_child spelled resolved within below
  rw [(Field.resolve_ok_iff.1 fromSource).2.1]
  exact key

/-- A visited field is named like the variable or by a word. -/
theorem name_of_visited (member : field ∈ visited options input) :
    field.name = input.name ∨ (Token.word field.name).IsLexeme := by
  obtain ⟨root, top, spelled, resolved, within⟩ := exists_root_of_visited member
  rcases within.eq_or_child with rfl | ⟨parent, above, below⟩
  · exact .inl (Field.resolve_ok_iff.1 resolved).2.1
  · obtain ⟨source, ⟨key, _, _⟩, fromSource⟩ :=
      Field.exists_spelled_of_child spelled resolved above below
    rw [(Field.resolve_ok_iff.1 fromSource).2.1]
    exact .inr key

/-- A visited field and the fields in its table have their types named after them. -/
theorem typeName_of_visited (member : field ∈ visited options input) :
    ∀ one ∈ field :: field.children, ∀ type ∈ one.typeName?, type = typeName one.name := by
  obtain ⟨root, top, _, resolved, within⟩ := exists_root_of_visited member
  intro one among type named
  have below : Field.Within one top := by
    rcases List.mem_cons.1 among with rfl | child
    · exact within
    · exact within.of_child child
  obtain ⟨source, _, fromSource⟩ := Field.exists_source resolved below
  exact ((Field.wellFormed_of_resolve fromSource).signature type named).1

omit [PatternEngine] in
theorem name_resolvedRow (row : Row) (group : Option Group) :
    (resolvedRow row group).name = row.name := by
  unfold resolvedRow
  repeat' split
  all_goals rfl

theorem name_row (options : Options) (input : Variable) :
    (ofVariable options input).row.name = input.name :=
  name_resolvedRow _ _

/-- A row mentions the type that is named after it. -/
theorem typeName_of_hasRow {row : Row} (has : (ofVariable options input).HasRow row) :
    ∀ type ∈ row.typeName, type = typeName row.name := by
  intro type mentioned
  cases has with
  | own same =>
      subst same
      obtain ⟨found, group, named⟩ := typeName_resolvedRow rfl mentioned
      obtain ⟨root, _, resolved⟩ := exists_root_of_group group
      rw [name_row, ((Field.wellFormed_of_resolve resolved).signature type named).1,
        (Field.resolve_ok_iff.1 resolved).2.1]
  | table among member =>
      obtain ⟨field, visits, entry⟩ := List.mem_filterMap.1 among
      obtain ⟨_, rfl⟩ := Field.entry?_eq_some_iff.1 entry
      obtain ⟨child, below, rfl⟩ := List.mem_map.1 member
      exact typeName_of_visited visits child (List.mem_cons_of_mem _ below) type mentioned

/-- The rows of a table that a variable adds are named by words. -/
theorem word_of_mem_rows {key : String} {table : Table}
    (member : (key, table) ∈ (ofVariable options input).tables) :
    ∀ row ∈ table.rows, (Token.word row.name).IsLexeme := by
  intro row among
  obtain ⟨field, visits, entry⟩ := List.mem_filterMap.1 member
  obtain ⟨_, rfl⟩ := Field.entry?_eq_some_iff.1 entry
  obtain ⟨child, below, rfl⟩ := List.mem_map.1 among
  exact word_of_child visits below

/-- A table that a variable adds is named after the variable or after a word. -/
theorem exists_name_of_mem_typeNames {key : String}
    (member : key ∈ (ofVariable options input).typeNames) :
    ∃ name, (name = input.name ∨ (Token.word name).IsLexeme) ∧ key = typeName name := by
  obtain ⟨field, visits, named⟩ := mem_typeNames_iff.1 member
  exact ⟨field.name, name_of_visited visits,
    typeName_of_visited visits field List.mem_cons_self key named⟩

end Contribution

/-! ## All variables -/

namespace Manifest

variable [PatternEngine] {options : Options} {inputs : List Variable}

/-- **A row mentions the type that is named after it.** -/
theorem typeName_of_hasRow {row : Row} (has : (ofVariables options inputs).HasRow row) :
    ∀ type ∈ row.typeName, type = typeName row.name := by
  obtain ⟨input, _, added⟩ := hasRow_ofVariables has
  exact Contribution.typeName_of_hasRow added

/-- **The rows of nested tables are named by words.** -/
theorem word_of_mem_rows {key : String} {table : Table}
    (found : (ofVariables options inputs).nested[key]? = some table) :
    ∀ row ∈ table.rows, (Token.word row.name).IsLexeme := by
  obtain ⟨input, _, added⟩ := mem_tables_of_nested found
  exact Contribution.word_of_mem_rows added

/-- **A nested table is named after a variable or after a word.** -/
theorem exists_name_of_mem_nested {key : String}
    (member : key ∈ (ofVariables options inputs).nested) :
    ∃ name, ((∃ input ∈ inputs, name = input.name) ∨ (Token.word name).IsLexeme) ∧
      key = typeName name := by
  obtain ⟨input, among, added⟩ := mem_nested_ofVariables.1 member
  obtain ⟨name, source, named⟩ := Contribution.exists_name_of_mem_typeNames added
  exact ⟨name, source.imp_left fun same => ⟨input, among, same⟩, named⟩

end Manifest

end InputDocs
