import InputDocs.Proofs.Field.Write
import InputDocs.Proofs.Manifest.Routing

/-!
# Proofs.Manifest.Pass -- one manifest through all variables

Threading one manifest through the variables comes to adding their contributions one after the
other: each step adds what the variable contributes, with its events (`Built.addVariable_eq`), and so
does a whole run, which never stops for a missing argument (`Built.addAll_eq`).

What a step writes depends on the manifest in two places only. A reference link replaces one of the
same name, wherever on the way it is met, and a table one of the same type name, which is told.
-/

namespace InputDocs

set_option autoImplicit false

/-! ## Records of fields -/

mutual

theorem Field.nestedRecords_record : (field : Field) →
    field.record.nestedRecords = field.nestedFields.map Field.record
  | ⟨_, _, .plain _, _⟩ => rfl
  | ⟨_, _, .nested _ _ children, _⟩ => by
    simp [Field.record, FieldRecord.nestedRecords, Field.nestedFields,
      Field.nestedAmong_records children]

theorem Field.nestedAmong_records : (fields : List Field) →
    FieldRecord.nestedAmong (Field.records fields) = (Field.nestedAmong fields).map Field.record
  | [] => rfl
  | field :: rest => by
    rw [Field.records, FieldRecord.nestedAmong, Field.nestedAmong, List.map_append,
      Field.nestedRecords_record field, Field.nestedAmong_records rest]

end

theorem Doc.text_record (doc : Doc) : doc.record.text = doc.text := rfl

theorem Notes.append_none (notes : Notes) : Notes.none.append notes = notes := by
  simp [append, none]

/-- The pass over documentation from no notes on. -/
theorem Doc.addAll_none (doc : Doc) (references : Index String) :
    Gathered.addAll ⟨.none, references⟩ doc.record.directives =
      some ⟨doc.notes, references.insertMany doc.references⟩ := by
  rw [Doc.addAll_directives, Notes.append_none]

namespace Field

theorem row_record (field : Field) (references : Index String) :
    field.record.row references =
      some (field.row, references.insertMany field.doc.references) := by
  simp [FieldRecord.row, Doc.addAll_none, row]
  rfl

theorem rows_records (fields : List Field) (references : Index String) :
    FieldRecord.rows references (fields.map record) =
      some (fields.map row,
        references.insertMany (fields.flatMap fun field => field.doc.references)) := by
  induction fields generalizing references with
  | nil => simp [FieldRecord.rows]
  | cons first rest ih =>
      simp [FieldRecord.rows, row_record, ih, Std.ExtTreeMap.insertMany_append]

end Field

theorem Manifest.reuseEvents_append (known : Index Table) (first second : List (String × Table)) :
    reuseEvents known (first ++ second) =
      reuseEvents known first ++ reuseEvents (known.insertMany first) second := by
  induction first generalizing known with
  | nil => simp [reuseEvents]
  | cons entry rest ih =>
      obtain ⟨name, table⟩ := entry
      simp only [List.cons_append, reuseEvents, ih, Std.ExtTreeMap.insertMany_cons]
      split <;> rfl

theorem Group.writeInto_record (group : Group) (row : Row) :
    group.record.writeInto row = Contribution.resolvedRow row (some group) := by
  obtain ⟨field, collection⟩ := group
  cases named : field.typeName? <;>
    simp [GroupRecord.writeInto, record, Contribution.resolvedRow, named]

namespace Built

/-- The manifest so far with tables and reference links, and with what is told of tables. -/
def addEntries (built : Built) (tables : List (String × Table))
    (references : List (String × String)) : Built where
  manifest := { built.manifest with
    nested := built.manifest.nested.insertMany tables
    references := built.manifest.references.insertMany references }
  events := built.events ++ Manifest.reuseEvents built.manifest.nested tables

theorem addEntries_nil (built : Built) : built.addEntries [] [] = built := by
  simp [addEntries, Manifest.reuseEvents]

theorem addEntries_addEntries (built : Built) (tables tables' : List (String × Table))
    (references references' : List (String × String)) :
    (built.addEntries tables references).addEntries tables' references' =
      built.addEntries (tables ++ tables') (references ++ references') := by
  simp [addEntries, Manifest.reuseEvents_append, Std.ExtTreeMap.insertMany_append]

theorem addTable_record (built : Built) {field : Field} {name : String}
    (named : field.typeName? = some name) :
    built.addTable field.record =
      some (built.addEntries [(name, field.table)] field.tableReferences) := by
  simp only [addTable, Field.typeName_record, named, Field.doc_record, Field.children_record,
    Doc.addAll_none, Field.rows_records]
  refine congrArg some ?_
  split <;> rename_i known
  · simp [addEntries, tell, Manifest.reuseEvents, known, Field.table, Field.tableReferences,
      Std.ExtTreeMap.insertMany_append, Doc.text_record]
  · simp [addEntries, Manifest.reuseEvents, known, Field.table, Field.tableReferences,
      Std.ExtTreeMap.insertMany_append, Doc.text_record]

/-- Adding fields that have type names adds their tables and reference links. -/
theorem foldlM_addTable (built : Built) {fields : List Field}
    (named : ∀ field ∈ fields, field.typeName?.isSome = true) :
    (fields.map Field.record).foldlM addTable built =
      some (built.addEntries (fields.filterMap Field.entry?)
        (fields.flatMap Field.tableReferences)) := by
  induction fields generalizing built with
  | nil => simp [addEntries, Manifest.reuseEvents]
  | cons first rest ih =>
      obtain ⟨here, others⟩ := List.forall_mem_cons.1 named
      obtain ⟨name, here⟩ := Option.isSome_iff_exists.1 here
      have entry : first.entry? = some (name, first.table) := by
        rw [Field.entry?, here, Option.map_some]
      rw [List.map_cons, List.foldlM_cons, addTable_record built here]
      show List.foldlM addTable _ _ = _
      rw [ih _ others, addEntries_addEntries, List.filterMap_cons_some entry, List.flatMap_cons,
        List.singleton_append]

theorem addTables_record (built : Built) (group : Group) :
    built.addTables group.record =
      some (built.addEntries (group.field.nestedFields.filterMap Field.entry?)
        (group.field.nestedFields.flatMap Field.tableReferences)) := by
  have named : ∀ field ∈ group.field.nestedFields, field.typeName?.isSome = true :=
    fun field member => (Field.mem_nestedFields_iff.1 member).2
  rw [addTables, Group.record, Field.nestedRecords_record, foldlM_addTable built named]

/-- The manifest so far with what a variable adds, and with what is told of it. -/
def add (built : Built) (added : Contribution) : Built where
  manifest := built.manifest.add added
  events := built.events ++ added.events ++ Manifest.reuseEvents built.manifest.nested added.tables

theorem add_mk (built : Built) (isRequired : Bool) (row : Row) (tables : List (String × Table))
    (references references' : List (String × String)) (events : List Event) :
    (addEntries
      ⟨{ built.manifest with references := built.manifest.references.insertMany references },
        built.events ++ events⟩ tables references').addRow isRequired row =
      built.add ⟨isRequired, row, tables, references ++ references', events⟩ := by
  simp only [add, addEntries, addRow, Manifest.add, Std.ExtTreeMap.insertMany_append]
  cases isRequired <;> rfl

variable [PatternEngine]

theorem documentType_eq (options : Options) (input : Variable) :
    documentType options input = Option.map Group.record <$> input.group options := by
  unfold documentType Variable.group
  cases input.type with
  | none => rfl
  | some text =>
      by_cases blank : Unicode.trim text.toList = []
      · simp only [blank, if_true]
        rfl
      · simp only [blank, if_false, documentRecord_eq]

theorem group_eq (built : Built) (options : Options) (input : Variable) :
    built.group options input =
      (⟨built.manifest, built.events ++ (Contribution.ofVariable options input).events⟩,
        (input.group options).outcome.toOption.join.map Group.record) := by
  simp only [group, documentType_eq, Contribution.ofVariable, Traced.events_map, Traced.outcome_map]
  cases (input.group options).outcome with
  | error error => simp [Except.map, Except.toOption, tell]
  | ok group => simp [Except.map, Except.toOption]

/-- **A step adds the contribution of its variable.** -/
theorem addVariable_eq (options : Options) (built : Built) (input : Variable) :
    built.addVariable options input = some (built.add (Contribution.ofVariable options input)) := by
  have contributed (row : Row) (tables : List (String × Table))
      (references : List (String × String)) :=
    add_mk built input.isRequired row tables (Doc.ofDescription input.description).references
      references (Contribution.ofVariable options input).events
  simp only [addVariable, group_eq, Doc.addAll_none]
  cases documented : (input.group options).outcome.toOption.join with
  | none =>
      have added := contributed (input.plainRow (Doc.ofDescription input.description)) [] []
      rw [addEntries_nil, List.append_nil] at added
      refine congrArg some (added.trans ?_)
      simp [Contribution.ofVariable, documented, Contribution.resolvedRow]
  | some group =>
      simp only [Option.map_some, addTables_record, group.writeInto_record]
      refine congrArg some ((contributed _ _ _).trans ?_)
      simp only [Contribution.ofVariable, documented]
      rfl

/-- **The pass comes to the manifest of the variables**, with its events. It never stops for a
missing argument. -/
theorem addAll_eq (options : Options) (inputs : List Variable) :
    addAll options inputs =
      some ⟨Manifest.ofVariables options inputs, Manifest.events options inputs⟩ := by
  have from_built (built : Built) : inputs.foldlM (addVariable options) built =
      some ⟨(inputs.map (Contribution.ofVariable options)).foldl Manifest.add built.manifest,
        built.events ++ built.manifest.eventsFrom (inputs.map (Contribution.ofVariable options))⟩ := by
    induction inputs generalizing built with
    | nil => simp [Manifest.eventsFrom]
    | cons first rest ih =>
        rw [List.foldlM_cons, addVariable_eq]
        show List.foldlM (addVariable options) _ rest = _
        rw [ih]
        simp [add, Manifest.eventsFrom]
  exact from_built _

end Built

end InputDocs
