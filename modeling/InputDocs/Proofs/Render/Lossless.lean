import InputDocs.Proofs.Render.Record

/-!
# Proofs.Render.Lossless -- output in JSON loses nothing

Every part of a manifest stands under a key of its own. Some entries stand only where there is
something to say, so what an object says is looked up by key and not by place (`lookup_noteEntries`);
an absent entry tells that there is nothing. So distinct manifests have distinct objects
(`manifestJson_injective`), and their objects, without numbers in them, have distinct texts.

The same goes for groups, by their records. Whatever strings the fields hold, the output tells two
manifests apart, and two groups (`output_injective`).
-/

namespace InputDocs.Render

set_option autoImplicit false

/-! ## Notes -/

/-- What stands under the key of notes, if there are any. -/
def noteArray (notes : List Note) : Option Json :=
  if notes = [] then none else some (.array (notes.map noteJson))

theorem noteJson_injective : Function.Injective noteJson := by
  rintro ⟨name, content⟩ ⟨name', content'⟩ same
  simpa [noteJson] using same

theorem noteArray_injective : Function.Injective noteArray := by
  intro first second same
  unfold noteArray at same
  split at same <;> split at same
  · simp_all
  · cases same
  · cases same
  · exact noteJson_injective.list_map (by simpa using same)

theorem lookup_noteEntries (key other : String) (notes : List Note) :
    (noteEntries key notes).lookup other = if other == key then noteArray notes else none := by
  unfold noteEntries noteArray
  split
  · simp
  · simp only [List.lookup_cons]
    split <;> simp_all

theorem notes_eq {first second : Notes}
    (attributes : noteArray first.attributes = noteArray second.attributes)
    (examples : noteArray first.examples = noteArray second.examples)
    (links : noteArray first.links = noteArray second.links) : first = second := by
  cases first
  cases second
  simp only [Notes.mk.injEq]
  exact ⟨noteArray_injective attributes, noteArray_injective examples, noteArray_injective links⟩

/-! ## Distinct manifests have distinct objects -/

theorem rowJson_injective : Function.Injective rowJson := by
  intro first second same
  have entry (key : String) := congrArg (List.lookup key) (Json.object.inj same)
  simp only [notesEntries, List.lookup_append, lookup_noteEntries, lookup_optional] at entry
  have signature : first.signature = second.signature := by
    simpa [List.lookup_cons] using entry "type"
  have typeName : first.typeName.map Json.string = second.typeName.map Json.string := by
    simpa [List.lookup_cons] using entry "complex_type"
  have name : first.name = second.name := by
    simpa [List.lookup_cons] using entry "name"
  have default : first.default = second.default := by
    simpa [List.lookup_cons] using entry "default_value"
  have description : first.description = second.description := by
    simpa [List.lookup_cons] using entry "description"
  have notes : first.notes = second.notes := by
    refine notes_eq ?_ ?_ ?_
    · simpa [List.lookup_cons] using entry "attributes"
    · simpa [List.lookup_cons] using entry "examples"
    · simpa [List.lookup_cons] using entry "links"
  have named := Option.map_injective (fun _ _ => Json.string.inj) typeName
  cases first
  cases second
  simp_all

theorem tableJson_injective : Function.Injective tableJson := by
  intro first second same
  have entry (key : String) := congrArg (List.lookup key) (Json.object.inj same)
  simp only [notesEntries, List.lookup_append, lookup_noteEntries] at entry
  have description : first.description = second.description := by
    simpa [List.lookup_cons] using entry "description"
  have rows : first.rows.map rowJson = second.rows.map rowJson := by
    simpa [List.lookup_cons] using entry "rows"
  have notes : first.notes = second.notes := by
    refine notes_eq ?_ ?_ ?_
    · simpa [List.lookup_cons] using entry "attributes"
    · simpa [List.lookup_cons] using entry "examples"
    · simpa [List.lookup_cons] using entry "links"
  have listed := rowJson_injective.list_map rows
  cases first
  cases second
  simp_all

theorem manifestJson_injective : Function.Injective manifestJson := by
  rintro ⟨required, optional, nested, references⟩ ⟨required', optional', nested', references'⟩ same
  have each {α : Type} {f : α → Json} (injective : Function.Injective f) :
      Function.Injective fun entry : String × α => (entry.1, f entry.2) := by
    rintro ⟨name, value⟩ ⟨name', value'⟩ same
    simpa [injective.eq_iff] using same
  simp only [manifestJson, Json.object.injEq, List.cons.injEq, Prod.mk.injEq, true_and,
    and_true] at same
  obtain ⟨requires, optionals, nests, refers⟩ := same
  obtain rfl := tableJson_injective requires
  obtain rfl := tableJson_injective optionals
  obtain rfl := Std.ExtTreeMap.toList_inj.1 ((each tableJson_injective).list_map nests)
  obtain rfl := Std.ExtTreeMap.toList_inj.1 ((each fun _ _ => Json.string.inj).list_map refers)
  rfl

/-! ## Manifests have no numbers -/

theorem numberless_noteEntries (key : String) (notes : List Note) :
    ∀ entry ∈ noteEntries key notes, entry.2.Numberless := by
  unfold noteEntries
  split <;> simp [noteJson]

theorem numberless_notesEntries (notes : Notes) :
    ∀ entry ∈ notesEntries notes, entry.2.Numberless := by
  refine List.forall_mem_append.2 ⟨List.forall_mem_append.2 ⟨?_, ?_⟩, ?_⟩
  · exact numberless_noteEntries _ _
  · exact numberless_noteEntries _ _
  · exact numberless_noteEntries _ _

theorem numberless_rowJson (row : Row) : (rowJson row).Numberless := by
  refine .object (List.forall_mem_append.2 ⟨?_, numberless_notesEntries row.notes⟩)
  cases row.typeName <;> simp

theorem numberless_tableJson (table : Table) : (tableJson table).Numberless := by
  refine .object (List.forall_mem_append.2 ⟨List.forall_mem_append.2 ⟨?_, ?_⟩, ?_⟩)
  · simp
  · exact numberless_notesEntries table.notes
  · simp [numberless_rowJson]

theorem numberless_manifestJson (manifest : Manifest) : (manifestJson manifest).Numberless := by
  have nested : ∀ entry ∈ manifest.nested.toList.map fun entry => (entry.1, tableJson entry.2),
      entry.2.Numberless := by
    rw [List.forall_mem_map]
    exact fun entry _ => numberless_tableJson entry.2
  have references : ∀ entry ∈ manifest.references.toList.map fun entry =>
      (entry.1, Json.string entry.2), entry.2.Numberless := by
    rw [List.forall_mem_map]
    exact fun entry _ => .string entry.2
  refine .object ?_
  simp only [List.forall_mem_cons, List.not_mem_nil, false_implies, implies_true, and_true]
  exact ⟨numberless_tableJson _, numberless_tableJson _, .object nested, .object references⟩

/-! ## Output -/

/-- **Output in JSON is lossless.** Distinct manifests are rendered differently, and distinct groups
are printed differently, as are any two records of groups. -/
theorem output_injective :
    Function.Injective json ∧
      (Function.Injective fun group : Option Group => (groupJson group).pretty) ∧
        Function.Injective fun record : Option GroupRecord => (recordJson record).pretty := by
  have records : Function.Injective fun record : Option GroupRecord => (recordJson record).pretty := by
    intro first second same
    have objects := (numberless_recordJson first).eq_of_pretty (numberless_recordJson second) same
    exact recordJson_injective objects
  refine ⟨?_, ?_, records⟩
  · intro first second same
    have texts : (manifestJson first).pretty = (manifestJson second).pretty :=
      (String.append_left_inj "\n").1 same
    have objects :=
      (numberless_manifestJson first).eq_of_pretty (numberless_manifestJson second) texts
    exact manifestJson_injective objects
  · intro first second same
    simp only [groupJson_eq] at same
    exact Option.map_injective Group.record_injective (records same)

end InputDocs.Render
