import InputDocs.Manifest.Pass
import InputDocs.Proofs.Doc.Label
import InputDocs.Proofs.Doc.Pattern

/-!
# Proofs.Manifest.Routing -- where each directive goes

The notes and the reference links of documentation are picked out of its directives list by list.
Here they are gathered in one pass over the records of the directives, which may hold anything
under their keys: kind and style say where a record goes, and its arguments are read by their
numbers (`DirectiveRecord.place?`). A record could lack an argument that is read, and then the pass
would stop without a result.

The records of documentation that was read lack none. What they hold was decided by their names
(`Directive.IsRead`), so each is sent to one place and no other (`SentTo`), and the pass comes to
the notes and the reference links that are picked out (`Doc.addAll_directives`).
-/

namespace InputDocs

set_option autoImplicit false

/-! ## Counting -/

/-- How many notes there are. -/
def Notes.count (notes : Notes) : Nat :=
  notes.attributes.length + notes.examples.length + notes.links.length

/-- Whether the directive defines a reference link. -/
def DirectiveRecord.isReference (record : DirectiveRecord) : Bool :=
  record.meaning.isValid && record.meaning.linkStyle = some .reference

/-! ## Places by name -/

/-- The names of the directives that are known. -/
def knownNames : List String := ["deprecated", "example", "enum", "link", "regex", "see", "since"]

/-- Where a directive of a name is sent. -/
inductive DirectiveRecord.SentTo (record : DirectiveRecord) : Place → Prop
  | sample {name target : String} (named : record.name = "example")
      (valid : record.meaning.isValid = true)
      (arguments : record.meaning.arguments = [name, target]) :
      SentTo record (.sample ⟨name, target⟩)
  | link {name target : String} (named : record.name = "link")
      (valid : record.meaning.isValid = true) (style : record.meaning.linkStyle = some .named)
      (arguments : record.meaning.arguments = [name, target]) :
      SentTo record (.link ⟨name, target⟩)
  | reference {name target : String} (named : record.name = "link")
      (valid : record.meaning.isValid = true) (style : record.meaning.linkStyle = some .reference)
      (arguments : record.meaning.arguments = [name, target]) :
      SentTo record (.reference name target)
  | attribute (other : record.name ≠ "example" ∧ record.name ≠ "link")
      (shown : record.meaning.isValid = true ∨ record.name ∉ knownNames) :
      SentTo record (.attribute record.titled)
  | nowhere (known : record.name ∈ knownNames) (invalid : record.meaning.isValid = false) :
      SentTo record .nowhere

/-- A directive is sent to one place at most. -/
theorem DirectiveRecord.SentTo.unique {record : DirectiveRecord} {first second : Place}
    (one : record.SentTo first) (other : record.SentTo second) : first = second := by
  cases one <;> cases other <;> simp_all [knownNames]

namespace Directive

/-- What a directive of a name can say. -/
inductive SaidBy : String → Meaning → Prop
  | deprecated (note : String) : SaidBy "deprecated" (.deprecated note)
  | see (target : String) : SaidBy "see" (.see target)
  | since (version : String) : SaidBy "since" (.since version)
  | choices (values : List String) : SaidBy "enum" (.choices values)
  | sample (label target : String) : SaidBy "example" (.sample label target)
  | noSample : SaidBy "example" (.malformed .sample)
  | link (style : LinkStyle) (label target : String) : SaidBy "link" (.link style label target)
  | noLink : SaidBy "link" (.malformed .link)
  | pattern (source : String) (samples : List String) : SaidBy "regex" (.pattern source samples)
  | noPattern : SaidBy "regex" (.malformed .pattern)
  | unsupported {name : String} (unknown : name ∉ knownNames) : SaidBy name .unsupported

/-- The name decides what is read. -/
theorem saidBy_read (compiles : List Char → Bool) (name : String) (content : List Char) :
    SaidBy name (read compiles name content) := by
  by_cases known : name ∈ knownNames
  · simp only [knownNames, List.mem_cons, List.not_mem_nil, or_false] at known
    rcases known with rfl | rfl | rfl | rfl | rfl | rfl | rfl
    · exact .deprecated _
    · rcases readSample_cases content with ⟨label, target, said⟩ | silent
      · exact (show read _ "example" content = _ from said) ▸ .sample label target
      · exact (show read _ "example" content = _ from silent) ▸ .noSample
    · exact .choices _
    · rcases readLink_cases content with ⟨style, label, target, said⟩ | silent
      · exact (show read _ "link" content = _ from said) ▸ .link style label target
      · exact (show read _ "link" content = _ from silent) ▸ .noLink
    · rcases readPattern_cases compiles content with ⟨source, samples, said⟩ | silent
      · exact (show read _ "regex" content = _ from said) ▸ .pattern source samples
      · exact (show read _ "regex" content = _ from silent) ▸ .noPattern
    · exact .see _
    · exact .since _
  · have unread : read compiles name content = .unsupported := by
      simp only [knownNames, List.mem_cons, List.not_mem_nil, or_false, not_or] at known
      simp [read, known]
    rw [unread]
    exact .unsupported known

/-- The meaning of the directive is one that its name allows. -/
def IsRead (directive : Directive) : Prop := SaidBy directive.name directive.meaning

/-- The place of a directive, by its meaning. -/
def place (directive : Directive) : Place :=
  match directive.meaning with
  | .malformed _ => .nowhere
  | .sample name target => .sample ⟨name, target⟩
  | .link .named name target => .link ⟨name, target⟩
  | .link .reference name target => .reference name target
  | _ => .attribute directive.titled

variable {directive : Directive}

/-- Kind and validity say whether a directive is shown. -/
theorem isShown_record (directive : Directive) : directive.record.isShown = directive.isShown := by
  obtain ⟨name, content, meaning⟩ := directive
  cases meaning with
  | malformed grammar => cases grammar <;> rfl
  | _ => rfl

/-- No argument is missing in the record of a directive. -/
theorem place?_record (directive : Directive) : directive.record.place? = some directive.place := by
  obtain ⟨name, content, meaning⟩ := directive
  cases meaning with
  | malformed grammar => cases grammar <;> rfl
  | link style => cases style <;> rfl
  | _ => rfl

/-- A directive that was read is sent to its place. -/
theorem IsRead.sentTo_place (isRead : directive.IsRead) :
    directive.record.SentTo directive.place := by
  obtain ⟨name, content, meaning⟩ := directive
  cases isRead with
  | sample label target => exact .sample rfl rfl rfl
  | link style label target =>
      cases style with
      | named => exact .link rfl rfl rfl rfl
      | reference => exact .reference rfl rfl rfl rfl
  | noSample | noLink | noPattern => exact .nowhere (by simp [knownNames, record]) rfl
  | unsupported unknown =>
      -- An unknown name is in particular neither of the two that are not shown as attributes.
      refine .attribute ⟨?_, ?_⟩ (.inr unknown)
      · rintro rfl
        simp [knownNames] at unknown
      · rintro rfl
        simp [knownNames] at unknown
  | _ => exact .attribute (by simp [record]) (.inl rfl)

/-- Valid examples and links have two arguments. -/
theorem IsRead.length_arguments (isRead : directive.IsRead)
    (valid : directive.record.meaning.isValid = true)
    (pair : directive.record.name = "example" ∨ directive.record.name = "link") :
    directive.record.meaning.arguments.length = 2 := by
  obtain ⟨name, content, meaning⟩ := directive
  cases isRead <;> simp_all [record, Meaning.record, Meaning.arguments, Meaning.isValid]

/-- The valid links are those with a style. -/
theorem IsRead.isSome_linkStyle (isRead : directive.IsRead) :
    directive.record.meaning.linkStyle.isSome = true ↔
      directive.record.name = "link" ∧ directive.record.meaning.isValid = true := by
  obtain ⟨name, content, meaning⟩ := directive
  cases isRead <;> simp [record, Meaning.record, Meaning.linkStyle, Meaning.isValid]

/-- What one directive adds to the notes. -/
def notes (directive : Directive) : Notes :=
  ⟨directive.attribute?.toList, directive.example?.toList, directive.link?.toList⟩

/-- One step of the pass adds what the directive adds to the notes and to the reference links. -/
theorem put_place (gathered : Gathered) (directive : Directive) :
    gathered.put directive.place =
      ⟨gathered.notes.append directive.notes,
        gathered.references.insertMany directive.reference?.toList⟩ := by
  obtain ⟨name, content, meaning⟩ := directive
  cases meaning with
  | link style => cases style <;> simp [Gathered.put, place, notes, Notes.append, attribute?,
      example?, link?, reference?]
  | _ => simp [Gathered.put, place, notes, Notes.append, attribute?, example?, link?, reference?]

/-- A directive that is shown adds one note or one reference link. -/
theorem count_notes (directive : Directive) :
    directive.notes.count + (if directive.record.isReference then 1 else 0) =
      if directive.isShown then 1 else 0 := by
  obtain ⟨name, content, meaning⟩ := directive
  cases meaning with
  | link style => cases style <;> rfl
  | _ => rfl

end Directive

/-! ## Whole documentation -/

theorem Notes.append_append (first second third : Notes) :
    (first.append second).append third = first.append (second.append third) := by
  simp [append, List.append_assoc]

theorem Notes.count_append (first second : Notes) :
    (first.append second).count = first.count + second.count := by
  simp only [append, count, List.length_append]
  omega

/-- The pass over the records of directives puts each in its place. -/
theorem Gathered.addAll_record (start : Gathered) (directives : List Directive) :
    start.addAll (directives.map Directive.record) =
      some ((directives.map Directive.place).foldl Gathered.put start) := by
  induction directives generalizing start with
  | nil => rfl
  | cons first rest ih =>
      rw [List.map_cons, List.map_cons, List.foldl_cons, ← ih, addAll, List.foldlM_cons,
        Directive.place?_record]
      rfl

namespace Doc

/-- The notes of documentation whose first directive is taken off. -/
theorem notes_cons (lines : List String) (first : Directive) (rest : List Directive) :
    notes ⟨lines, first :: rest⟩ = first.notes.append (notes ⟨lines, rest⟩) := by
  simp [notes, Notes.append, Directive.notes, List.filterMap_eq_flatMap_toList]

theorem references_cons (lines : List String) (first : Directive) (rest : List Directive) :
    references ⟨lines, first :: rest⟩ =
      first.reference?.toList ++ references ⟨lines, rest⟩ := by
  simp [references, List.filterMap_eq_flatMap_toList]

/-- **The pass over the directives comes to what is picked out of them.** -/
theorem addAll_directives (doc : Doc) (start : Gathered) :
    start.addAll doc.record.directives =
      some ⟨start.notes.append doc.notes, start.references.insertMany doc.references⟩ := by
  obtain ⟨lines, directives⟩ := doc
  rw [record, Gathered.addAll_record]
  -- Over every start, since the rest goes on from what the first directive has added.
  induction directives generalizing start with
  | nil => simp [notes, references, Notes.append]
  | cons first rest ih =>
      rw [List.map_cons, List.foldl_cons, ih, Directive.put_place, notes_cons, references_cons,
        Notes.append_append, Std.ExtTreeMap.insertMany_append]

/-- Every directive that is shown is a note or defines a reference link. -/
theorem count_notes (doc : Doc) :
    doc.notes.count + doc.record.directives.countP DirectiveRecord.isReference =
      doc.record.directives.countP DirectiveRecord.isShown := by
  obtain ⟨lines, directives⟩ := doc
  induction directives with
  | nil => rfl
  | cons first rest ih =>
      have here := first.count_notes
      simp only [record] at ih ⊢
      rw [List.map_cons, List.countP_cons, List.countP_cons, notes_cons, Notes.count_append,
        first.isShown_record]
      omega

/-- The directives of lines are read by their names. -/
theorem isRead_of_mem [PatternEngine] {lines : List (List Char)} {directive : Directive}
    (member : directive ∈ (ofLines lines).directives) : directive.IsRead := by
  obtain ⟨raw, _, found⟩ := exists_of_mem_directives member
  obtain ⟨name, _, _, ⟨-, rfl⟩ | ⟨content, -, rfl⟩⟩ := exists_of_directive? found
  · exact Directive.saidBy_read _ _ _
  · exact Directive.saidBy_read _ _ _

/-- How the directives of documentation are sent to their places, from any notes and reference
links on:

* valid examples and links have the two arguments that are read, and the valid links are those with
  a style;
* each directive has one place, and the pass puts all of them there in order, without stopping;
* it comes to the notes and the reference links of the documentation, after those of the start;
* the directives that are shown are as many as the new notes and the valid reference links. -/
structure Routed (doc : Doc) (start : Gathered) : Prop where
  arguments : ∀ record ∈ doc.record.directives, record.meaning.isValid = true →
    record.name = "example" ∨ record.name = "link" → record.meaning.arguments.length = 2
  style : ∀ record ∈ doc.record.directives, record.meaning.linkStyle.isSome = true ↔
    record.name = "link" ∧ record.meaning.isValid = true
  place : ∀ record ∈ doc.record.directives, ∃! place, record.SentTo place
  pass : ∃ places, List.Forall₂ DirectiveRecord.SentTo doc.record.directives places ∧
    start.addAll doc.record.directives = some (places.foldl Gathered.put start)
  result : start.addAll doc.record.directives =
    some ⟨start.notes.append doc.notes, start.references.insertMany doc.references⟩
  count : ∀ final, start.addAll doc.record.directives = some final →
    start.notes.count + doc.record.directives.countP DirectiveRecord.isShown =
      final.notes.count + doc.record.directives.countP DirectiveRecord.isReference

theorem routed_ofLines [PatternEngine] (lines : List (List Char)) (start : Gathered) :
    (ofLines lines).Routed start := by
  have isRead : ∀ record ∈ (ofLines lines).record.directives,
      ∃ directive : Directive, directive.record = record ∧ directive.IsRead := by
    intro record member
    obtain ⟨directive, among, rfl⟩ := List.mem_map.1 member
    exact ⟨directive, rfl, isRead_of_mem among⟩
  exact {
    arguments := by
      intro record member valid pair
      obtain ⟨directive, rfl, isRead⟩ := isRead record member
      exact isRead.length_arguments valid pair
    style := by
      intro record member
      obtain ⟨directive, rfl, isRead⟩ := isRead record member
      exact isRead.isSome_linkStyle
    place := by
      intro record member
      obtain ⟨directive, rfl, isRead⟩ := isRead record member
      exact ⟨directive.place, isRead.sentTo_place, fun _ other => other.unique isRead.sentTo_place⟩
    pass := by
      refine ⟨(ofLines lines).directives.map Directive.place, ?_, Gathered.addAll_record _ _⟩
      rw [Doc.record, List.forall₂_map_left_iff, List.forall₂_map_right_iff, List.forall₂_same]
      exact fun directive member => (isRead_of_mem member).sentTo_place
    result := addAll_directives _ start
    count := by
      intro final done
      rw [addAll_directives] at done
      obtain rfl := Option.some_inj.1 done
      rw [Notes.count_append, ← count_notes]
      omega }

/-- **Every directive goes to its place.** The directives of a comment or a description are sent to
one place each, and no argument is missing on the way. -/
theorem directives_routed [PatternEngine] (start : Gathered) :
    (∀ comment, (ofComment comment).Routed start) ∧
      ∀ text, (ofDescription text).Routed start := by
  refine ⟨fun comment => ?_, fun text => routed_ofLines _ start⟩
  cases comment with
  | lines lines => exact routed_ofLines _ start
  | block text => exact routed_ofLines _ start

end Doc

end InputDocs
