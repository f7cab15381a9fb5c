import InputDocs.Proofs.Field.Events
import InputDocs.Proofs.Manifest.Links
import Mathlib.Data.List.Basic

/-!
# Proofs.Manifest.Accounts -- no nested table is lost silently

The fields with a type of their own, in the order in which the variables and the walks over their
groups come to them (`Manifest.nestedFields`), account for the nested tables: each is put under its
type name, over what is there. So under a name stands the table of the last field with that name
(`Manifest.getElem?_nested`), and a field that puts nothing new under its name has told so. The
tables and the events of reuse together are as many as the fields, whatever was there before
(`Manifest.reuses_add_size`).

A warning is told for a variable that is left undocumented, for no other reason and in the order of
the variables (`Manifest.warnings_events`). What a resolution reports is no warning.
-/

namespace InputDocs

set_option autoImplicit false

/-- The event tells that a type name is used again. -/
def Event.isReuse : Event → Bool
  | .typeNameReused _ => true
  | _ => false

theorem Event.OfResolution.quiet {event : Event} (resolution : event.OfResolution) :
    event.level = .debug ∧ event.isReuse = false := by
  cases event with
  | notDocumented | typeNameReused => exact absurd resolution id
  | _ => exact ⟨rfl, rfl⟩

/-- Why the type of a variable is left undocumented: it is there and not blank, and it cannot be
read, or what it reads as cannot be resolved. -/
def Variable.failure? [PatternEngine] (options : Options) (input : Variable) :
    Option DocumentError :=
  match input.type with
  | none => none
  | some text =>
    if Unicode.trim text.toList = [] then none
    else
      match TypeExpr.parse options.maxDepth text with
      | .error error => some (.parse error)
      | .ok root =>
        match (Field.resolveGroup options.policy root input.name).outcome with
        | .error error => some (.duplicate error)
        | .ok _ => none

/-! ## One variable -/

theorem Variable.events_group [PatternEngine] (options : Options) (input : Variable) :
    ∀ event ∈ (input.group options).events, event.OfResolution := by
  unfold Variable.group
  split
  · exact Traced.forall_events_pure _
  · split
    · exact Traced.forall_events_pure _
    · exact events_document options input.name _

/-- A variable's group fails to be there for the reason that its type has. -/
theorem Variable.failure?_eq [PatternEngine] (options : Options) (input : Variable) :
    input.failure? options =
      match (input.group options).outcome with
      | .ok _ => none
      | .error error => some error := by
  unfold Variable.failure? Variable.group
  cases input.type with
  | none => rfl
  | some text =>
      dsimp only
      split
      · rfl
      · unfold document
        cases TypeExpr.parse options.maxDepth text with
        | error error => rfl
        | ok root =>
            dsimp only [Traced.mapError]
            cases (Field.resolveGroup options.policy root input.name).outcome <;> rfl

namespace Contribution

variable [PatternEngine] {options : Options} {input : Variable}

theorem typeName?_of_visited {field : Field} (member : field ∈ visited options input) :
    field.typeName?.isSome = true := by
  obtain ⟨_, _, _, named⟩ := mem_visited_iff.1 member
  exact named

/-- Every field that is visited has its table among those that are added. -/
theorem length_tables (options : Options) (input : Variable) :
    (ofVariable options input).tables.length = (visited options input).length := by
  refine List.filterMap_length_eq_length.2 ?_
  intro field member
  rw [Field.entry?, Option.isSome_map]
  exact typeName?_of_visited member

/-- What a variable tells: what its resolution reports, and why it is left undocumented. -/
theorem events_ofVariable (options : Options) (input : Variable) :
    (ofVariable options input).events = (input.group options).events ++
      ((input.failure? options).map (.notDocumented input.name)).toList := by
  rw [Variable.failure?_eq, ofVariable]
  cases (input.group options).outcome <;> rfl

/-- A variable does not tell that a type name is used again. -/
theorem isReuse_of_mem_events :
    ∀ event ∈ (ofVariable options input).events, event.isReuse = false := by
  intro event member
  rw [events_ofVariable] at member
  rcases List.mem_append.1 member with early | last
  · exact (Variable.events_group options input event early).quiet.2
  · obtain ⟨error, _, rfl⟩ := Option.map_eq_some_iff.1 (Option.mem_toList.1 last)
    rfl

/-- The warnings of a variable. -/
theorem warnings_ofVariable (options : Options) (input : Variable) :
    ((ofVariable options input).events.filter fun event => event.level = .warn) =
      ((input.failure? options).map (.notDocumented input.name)).toList := by
  have quiet : ((input.group options).events.filter fun event => event.level = .warn) = [] := by
    rw [List.filter_eq_nil_iff]
    intro event member
    simp [(Variable.events_group options input event member).quiet.1]
  rw [events_ofVariable, List.filter_append, quiet, List.nil_append]
  cases input.failure? options <;> rfl

end Contribution

/-! ## All variables -/

namespace Manifest

/-- The fields that have a table, in the order in which the variables come to them. -/
def nestedFields [PatternEngine] (options : Options) (inputs : List Variable) : List Field :=
  inputs.flatMap (Contribution.visited options)

variable {options : Options} {inputs : List Variable}

/-- The table of a field whose type has the name. -/
def tableFor (name : String) (field : Field) : Option Table :=
  if field.typeName? = some name then some field.table else none

theorem tableFor_eq_some_iff {name : String} {field : Field} {table : Table} :
    tableFor name field = some table ↔ field.typeName? = some name ∧ field.table = table := by
  simp [tableFor]

/-- Under a type name stands the table of the last field with it. -/
theorem getElem?_nested [PatternEngine] (options : Options) (inputs : List Variable)
    (name : String) :
    (ofVariables options inputs).nested[name]? =
      (nestedFields options inputs).findSomeRev? (tableFor name) := by
  have entry (field : Field) : (Field.entry? field).bind (valueFor name) = tableFor name field := by
    unfold Field.entry? tableFor valueFor
    cases field.typeName? <;> simp
  have lasts : (ofVariables options inputs).nested[name]? = inputs.findSomeRev? fun input =>
      lastEntry name (Contribution.ofVariable options input).tables :=
    getElem?_ofVariables (fun _ _ => rfl) rfl options inputs name
  rw [lasts, nestedFields, findSomeRev?_flatMap]
  refine findSomeRev?_congr fun input _ => ?_
  rw [lastEntry]
  change List.findSomeRev? (valueFor name)
    ((Contribution.visited options input).filterMap Field.entry?) = _
  rw [findSomeRev?_filterMap]
  exact findSomeRev?_congr fun field _ => entry field

/-! ## Reuse -/

theorem isReuse_of_mem_reuseEvents {known : Index Table} {entries : List (String × Table)} :
    ∀ event ∈ reuseEvents known entries, event.isReuse = true ∧ event.level = .debug := by
  induction entries generalizing known with
  | nil => exact fun event member => absurd member List.not_mem_nil
  | cons entry rest ih =>
      intro event member
      unfold reuseEvents at member
      dsimp only at member
      split at member
      · rcases List.mem_cons.1 member with rfl | later
        · exact ⟨rfl, rfl⟩
        · exact ih event later
      · exact ih event member

/-- Every entry either is new or is told to be none. -/
theorem length_reuseEvents (known : Index Table) (entries : List (String × Table)) :
    (reuseEvents known entries).length + (known.insertMany entries).size =
      known.size + entries.length := by
  induction entries generalizing known with
  | nil => simp [reuseEvents]
  | cons entry rest ih =>
      obtain ⟨name, table⟩ := entry
      have later := ih (known.insert name table)
      have size : (known.insert name table).size =
          if name ∈ known then known.size else known.size + 1 := Std.ExtTreeMap.size_insert
      rw [Std.ExtTreeMap.insertMany_cons, List.length_cons]
      unfold reuseEvents
      dsimp only
      split
      · rename_i again
        rw [if_pos again] at size
        rw [List.length_cons]
        omega
      · rename_i fresh
        rw [if_neg fresh] at size
        omega

/-- The same for contributions that are added one after the other. -/
theorem countP_isReuse_eventsFrom {added : List Contribution}
    (silent : ∀ one ∈ added, ∀ event ∈ one.events, event.isReuse = false) (manifest : Manifest) :
    (manifest.eventsFrom added).countP Event.isReuse + (added.foldl add manifest).nested.size =
      manifest.nested.size + (added.flatMap Contribution.tables).length := by
  induction added generalizing manifest with
  | nil => simp [eventsFrom]
  | cons first rest ih =>
      obtain ⟨firstSilent, restSilent⟩ := List.forall_mem_cons.1 silent
      have later := ih restSilent (manifest.add first)
      have here := length_reuseEvents manifest.nested first.tables
      have own : first.events.countP Event.isReuse = 0 :=
        List.countP_eq_zero.2 fun event member => by simp [firstSilent event member]
      have reused : (reuseEvents manifest.nested first.tables).countP Event.isReuse =
          (reuseEvents manifest.nested first.tables).length :=
        List.countP_eq_length.2 fun event member => (isReuse_of_mem_reuseEvents event member).1
      have added : (manifest.add first).nested = manifest.nested.insertMany first.tables := rfl
      rw [eventsFrom, List.countP_append, List.countP_append, own, reused, List.foldl_cons,
        List.flatMap_cons, List.length_append]
      rw [added] at later
      omega

/-- **Fields are new or told to be none.** The reuses that are told and the tables that are there
are as many as the fields that have a table. -/
theorem reuses_add_size [PatternEngine] (options : Options) (inputs : List Variable) :
    (events options inputs).countP Event.isReuse + (ofVariables options inputs).nested.size =
      (nestedFields options inputs).length := by
  have silent : ∀ one ∈ inputs.map (Contribution.ofVariable options),
      ∀ event ∈ one.events, event.isReuse = false := by
    intro one member
    obtain ⟨input, _, rfl⟩ := List.mem_map.1 member
    exact Contribution.isReuse_of_mem_events
  have lengths : ((inputs.map (Contribution.ofVariable options)).flatMap
      Contribution.tables).length = (nestedFields options inputs).length := by
    rw [nestedFields, List.length_flatMap, List.length_flatMap, List.map_map]
    refine congrArg List.sum (List.map_congr_left fun input _ => ?_)
    exact Contribution.length_tables options input
  rw [events, ofVariables, countP_isReuse_eventsFrom silent, lengths]
  exact Nat.zero_add _

/-! ## Warnings -/

theorem warnings_eventsFrom (manifest : Manifest) (added : List Contribution) :
    ((manifest.eventsFrom added).filter fun event => event.level = .warn) =
      added.flatMap fun one => one.events.filter fun event => event.level = .warn := by
  induction added generalizing manifest with
  | nil => rfl
  | cons first rest ih =>
      have none : ((reuseEvents manifest.nested first.tables).filter fun event =>
          event.level = .warn) = [] := by
        rw [List.filter_eq_nil_iff]
        intro event member
        simp [(isReuse_of_mem_reuseEvents event member).2]
      rw [eventsFrom, List.filter_append, List.filter_append, none, List.append_nil, ih,
        List.flatMap_cons]

/-- **A warning is told for each variable that is left undocumented, in order.** -/
theorem warnings_events [PatternEngine] (options : Options) (inputs : List Variable) :
    ((events options inputs).filter fun event => event.level = .warn) =
      inputs.filterMap fun input =>
        (input.failure? options).map (.notDocumented input.name) := by
  rw [events, warnings_eventsFrom, List.flatMap_map, List.filterMap_eq_flatMap_toList]
  simp only [Contribution.warnings_ofVariable]

/-! ## The account -/

/-- **No nested table is lost silently.** The fields that the walks come to are all with a type of
their own, at any depth of the variables' groups. Each type name of such a field has a table, and
there are no others; the table is that of the last field with the name and has a row for each child,
in order; the reuses that are told make up for the tables that are replaced; and a variable that is
left undocumented is told, with the reason. -/
theorem nested_accounted [PatternEngine] (options : Options) (inputs : List Variable) :
    (∀ field, field ∈ nestedFields options inputs ↔
      ∃ input ∈ inputs, ∃ group, (input.group options).outcome = .ok (some group) ∧
        Field.Within field group.field ∧ field.typeName?.isSome = true) ∧
    (∀ name, name ∈ (ofVariables options inputs).nested ↔
      ∃ field ∈ nestedFields options inputs, field.typeName? = some name) ∧
    (∀ name table, (ofVariables options inputs).nested[name]? = some table ↔
      ∃ before field after, nestedFields options inputs = before ++ field :: after ∧
        field.typeName? = some name ∧ (∀ later ∈ after, later.typeName? ≠ some name) ∧
          table = ⟨field.doc.text, field.doc.notes, field.children.map Field.row⟩) ∧
    (events options inputs).countP Event.isReuse + (ofVariables options inputs).nested.size =
      (nestedFields options inputs).length ∧
    ((events options inputs).filter fun event => event.level = .warn) =
      inputs.filterMap fun input =>
        (input.failure? options).map (.notDocumented input.name) := by
  refine ⟨fun field => ?_, fun name => ?_, fun name table => ?_, reuses_add_size options inputs,
    warnings_events options inputs⟩
  · simp only [nestedFields, List.mem_flatMap, Contribution.mem_visited_iff]
  · rw [mem_nested_ofVariables]
    constructor
    · rintro ⟨input, given, named⟩
      obtain ⟨field, visits, type⟩ := Contribution.mem_typeNames_iff.1 named
      exact ⟨field, List.mem_flatMap.2 ⟨input, given, visits⟩, type⟩
    · rintro ⟨field, member, type⟩
      obtain ⟨input, given, visits⟩ := List.mem_flatMap.1 member
      exact ⟨input, given, Contribution.mem_typeNames_iff.2 ⟨field, visits, type⟩⟩
  · have other (field : Field) : tableFor name field = none ↔ field.typeName? ≠ some name := by
      simp [tableFor]
    rw [getElem?_nested, findSomeRev?_eq_some_iff]
    simp only [tableFor_eq_some_iff, other]
    constructor
    · rintro ⟨before, field, after, parts, ⟨named, rfl⟩, others⟩
      exact ⟨before, field, after, parts, named, others, rfl⟩
    · rintro ⟨before, field, after, parts, named, others, rfl⟩
      exact ⟨before, field, after, parts, ⟨named, rfl⟩, others⟩

/-- A type name that is used by two fields at different depths, and a variable whose type ends in
the middle. -/
theorem nested_accounted_reused :
    let _ : PatternEngine := .lenient
    let nested := "object(\x7b a = object(\x7b b = \x7b c = any \x7d \x7d)" ++
      " b = \x7b d = any \x7d \x7d)"
    let inputs : List Variable := [{ name := "x", type := nested }, { name := "y", type := "map(" }]
    let shape (field : Field) := (field.typeName?, field.children.map Field.name)
    (nestedFields {} inputs).map shape =
        [(some "X", ["a", "b"]), (some "A", ["b"]), (some "B", ["c"]), (some "B", ["d"])] ∧
      (ofVariables {} inputs).nested.keys = ["A", "B", "X"] ∧
      (∃ table, (ofVariables {} inputs).nested["B"]? = some table ∧
        table.rows.map Row.name = ["d"]) ∧
      (events {} inputs).countP Event.isReuse = 1 ∧
      ((events {} inputs).filter fun event => event.level = .warn).length = 1 := by
  intro _ nested inputs shape
  obtain ⟨_, _, tables, reuses, warnings⟩ := nested_accounted {} inputs
  have fields : (nestedFields {} inputs).map shape =
      [(some "X", ["a", "b"]), (some "A", ["b"]), (some "B", ["c"])] ++ [(some "B", ["d"])] := by
    decide +kernel
  have keys : (ofVariables {} inputs).nested.keys = ["A", "B", "X"] := by
    decide +kernel
  have told : (inputs.filterMap fun input =>
      (input.failure? {}).map (Event.notDocumented input.name)).length = 1 := by
    decide +kernel
  obtain ⟨before, rest, parts, _, ends⟩ := List.map_eq_append_iff.1 fields
  obtain ⟨last, rfl, shown⟩ := List.map_eq_singleton_iff.1 ends
  obtain ⟨named, below⟩ := Prod.mk.inj shown
  refine ⟨fields, keys, ⟨_, (tables "B" _).2 ⟨before, last, [], parts, named, nofun, rfl⟩, ?_⟩, ?_, ?_⟩
  · rw [List.map_map]
    exact below
  · have size := congrArg List.length keys
    have length := congrArg List.length fields
    rw [Std.ExtTreeMap.length_keys] at size
    rw [List.length_map] at length
    simp only [List.length_cons, List.length_append, List.length_nil] at size length
    omega
  · rw [warnings, told]

end Manifest

end InputDocs
