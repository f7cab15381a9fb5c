import InputDocs.Proofs.Doc.OneLine
import InputDocs.Proofs.Render.Harmless
import InputDocs.Render.Markdown

/-!
# Proofs.Render.Exposed -- the lines of user text in Markdown

In Markdown most user texts stand in cells. A cell is escaped, so it has no line feed, and it
stands between bars; notes, headings and reference links have marks of their own on their lines.
Two texts are written as they are: the description of a table, and the name of a row, which stands
between backquotes. A line that consists of nothing else is exposed (`Table.Exposes`): each line of
a description, and the lines of a name but for its first and its last.

For a manifest whose notes are on one line and whose type names have no underscores
(`Manifest.Tidy`) these are all the lines that may be the end marker: every other line of the
rendering is harmless (`mem_lines_markdown`), and the exposed lines are lines of it
(`mem_lines_markdown_of_exposes`).
-/

namespace InputDocs

set_option autoImplicit false

open Text (lines innerLines)

namespace Render

/-! ## Notes -/

theorem feed_notMem_bracketAddresses {text : List Char} (inside : Bool) (single : '\n' ∉ text) :
    '\n' ∉ bracketAddresses inside text := by
  induction text generalizing inside with
  | nil => cases inside <;> decide
  | cons c rest ih =>
      rw [List.mem_cons, not_or] at single
      unfold bracketAddresses
      split <;> split <;> simp [single.1, ih _ single.2]

theorem feed_notMem_headingAnchor {heading : String} (single : '\n' ∉ heading.toList) :
    '\n' ∉ (headingAnchor heading).toList := by
  have lowered : '\n' ∉ Unicode.lowercase (Unicode.trim heading.toList) :=
    Unicode.notMem_lowercase (by decide) (mt Unicode.mem_of_mem_trim single)
  rw [headingAnchor, String.toList_ofList]
  intro member
  obtain ⟨c, among, kept⟩ := List.mem_filterMap.1 member
  unfold anchorChar at kept
  split at kept
  · exact absurd kept (by decide)
  · split at kept
    · obtain rfl := Option.some_inj.1 kept
      exact lowered among
    · cases kept

theorem feed_notMem_seeLink {target : String} (single : '\n' ∉ target.toList) :
    '\n' ∉ (seeLink target).toList := by
  have anchored := feed_notMem_headingAnchor single
  have bracketed := feed_notMem_bracketAddresses false single
  unfold seeLink
  dsimp only
  repeat' split
  all_goals simp [single, anchored, bracketed]

theorem feed_notMem_attributeText {note : Note} (single : note.OneLine) :
    '\n' ∉ (attributeText note).toList := by
  have target := feed_notMem_seeLink single.content
  unfold attributeText
  repeat' split
  all_goals simp [single.name, single.content, target]

theorem feed_notMem_linkText {note : Note} (single : note.OneLine) :
    '\n' ∉ (linkText note).toList := by
  simp [linkText, single.name, single.content]

theorem feed_notMem_noteTexts {notes : Notes} (single : notes.OneLine) :
    ∀ text ∈ noteTexts notes, '\n' ∉ text.toList := by
  intro text member
  rw [noteTexts, List.mem_append, List.mem_append] at member
  rcases member with (shown | sample) | link
  · obtain ⟨note, among, rfl⟩ := List.mem_map.1 shown
    exact feed_notMem_attributeText (single.attributes note among)
  · obtain ⟨note, among, rfl⟩ := List.mem_map.1 sample
    have label := feed_notMem_linkText (single.examples note among)
    simp [label]
  · obtain ⟨note, among, rfl⟩ := List.mem_map.1 link
    exact feed_notMem_linkText (single.links note among)

/-! ## Cells -/

theorem feed_notMem_escapeCell (text : String) : '\n' ∉ (escapeCell text).toList := by
  rw [escapeCell, String.toList_ofList]
  intro member
  obtain ⟨c, _, escaped⟩ := List.mem_flatMap.1 member
  unfold escapeCellChar at escaped
  split at escaped
  · exact absurd escaped (by decide)
  · split at escaped
    · exact absurd escaped (by decide)
    · rename_i other
      exact other (List.mem_singleton.1 escaped).symm

theorem feed_notMem_codeSpan {text : String} (single : '\n' ∉ text.toList) :
    '\n' ∉ (codeSpan text).toList := by
  unfold codeSpan
  split
  · decide
  · simp [single]

theorem notMem_intercalate {c : Char} {mark : String} {parts : List String}
    (between : c ∉ mark.toList) (each : ∀ part ∈ parts, c ∉ part.toList) :
    c ∉ (mark.intercalate parts).toList := by
  rw [String.toList_intercalate]
  induction parts with
  | nil => exact List.not_mem_nil
  | cons first rest ih =>
      obtain ⟨here, later⟩ := List.forall_mem_cons.1 each
      cases rest with
      | nil => simpa using here
      | cons second others =>
          have tail := ih later
          rw [List.map_cons] at tail
          rw [List.map_cons, List.map_cons, List.intercalate_cons_cons, List.mem_append,
            List.mem_append, not_or, not_or]
          exact ⟨⟨here, between⟩, tail⟩

theorem feed_notMem_descriptionCell (row : Row) : '\n' ∉ (descriptionCell row).toList := by
  refine notMem_intercalate (by decide) ?_
  intro part member
  obtain ⟨text, _, rfl⟩ := List.mem_map.1 member
  exact feed_notMem_escapeCell text

/-- The type of a row between texts that are guarded: its nested type is the only text in it that
is not escaped. -/
theorem harmlessLines_typeCell {row : Row} {before after : List Char}
    (plain : ∀ name ∈ row.typeName, '_' ∉ name.toList)
    (barBefore : '|' ∈ before) (singleBefore : '\n' ∉ before)
    (barAfter : '|' ∈ after) (singleAfter : '\n' ∉ after) :
    HarmlessLines (before ++ ((typeCell row).toList ++ after)) := by
  have bar : IsGuard '|' := by decide
  unfold typeCell
  split
  · rename_i name anchor front back named anchored _
    have title : '_' ∉ name.toList := plain name named
    have target : '_' ∉ anchor.toList := by
      rw [Row.anchor, named, Option.map_some, Option.some_inj] at anchored
      rw [← anchored, String.toList_ofList]
      exact Unicode.notMem_lowercase (by decide) title
    have opening : HarmlessLines (before ++ (escapeCell front).toList ++ ['[']) :=
      harmlessLines_of_guard bar (by simp [barBefore])
        (by simp [singleBefore, feed_notMem_escapeCell])
    have middle : HarmlessLines "](#".toList := harmlessLines_of_notMem (by decide)
    have closing : HarmlessLines (')' :: ((escapeCell back).toList ++ after)) :=
      harmlessLines_of_guard bar (by simp [barAfter])
        (by simp [singleAfter, feed_notMem_escapeCell])
    have whole := opening.append ((harmlessLines_of_notMem title).append
      (middle.append ((harmlessLines_of_notMem target).append closing)))
    simpa using whole
  · refine harmlessLines_of_guard bar (List.mem_append_left _ barBefore) ?_
    have single := feed_notMem_codeSpan (feed_notMem_escapeCell row.signature)
    simp [singleBefore, single, singleAfter]

/-! ## Rows and tables -/

/-- In a row only the name is not escaped. -/
theorem mem_lines_rowText {row : Row} {line : List Char}
    (plain : ∀ name ∈ row.typeName, '_' ∉ name.toList)
    (member : line ∈ lines (rowText row).toList) :
    Harmless line ∨ line ∈ innerLines row.name.toList := by
  have quoteGuard : IsGuard '`' := by decide
  let rest := " | ".toList ++ ((codeSpan (escapeCell row.default)).toList ++
    (" | ".toList ++ ((descriptionCell row).toList ++ " |".toList)))
  have parts : (rowText row).toList = ['|', ' '] ++ '`' :: (row.name.toList ++
      '`' :: ([' ', '|', ' '] ++ ((typeCell row).toList ++ rest))) := by
    simp [rowText, rest]
  have later : HarmlessLines ([' ', '|', ' '] ++ ((typeCell row).toList ++ rest)) := by
    have single := feed_notMem_codeSpan (feed_notMem_escapeCell row.default)
    exact harmlessLines_typeCell plain (by decide) (by decide) (by simp [rest])
      (by simp [rest, single, feed_notMem_descriptionCell])
  rw [parts] at member
  rcases Text.mem_lines_enclosed (by decide) (by decide) member with
    start | opened | inner | closed | after
  · exact .inl (harmlessLines_of_guard (c := '|') (by decide) (by decide) (by decide) line start)
  · exact .inl (.inr ⟨_, opened, quoteGuard⟩)
  · exact .inr inner
  · exact .inl (.inr ⟨_, closed, quoteGuard⟩)
  · exact .inl (later line after)

theorem mem_lines_rowText_of_inner {row : Row} {line : List Char}
    (inner : line ∈ innerLines row.name.toList) : line ∈ lines (rowText row).toList := by
  simp only [rowText, String.toList_append, List.append_assoc]
  exact Text.mem_lines_of_mem_innerLines inner

/-- The lines of texts with line feeds between them. -/
theorem mem_lines_joined {parts : List String} {line : List Char} (any : parts ≠ []) :
    line ∈ lines ("\n".intercalate parts).toList ↔ ∃ part ∈ parts, line ∈ lines part.toList := by
  have some_part : parts.map String.toList ≠ [] := by simpa using any
  rw [String.toList_intercalate]
  change line ∈ lines (['\n'].intercalate (parts.map String.toList)) ↔ _
  rw [Text.lines_intercalate some_part, List.flatMap_map, List.mem_flatMap]

end Render

/-- A line of the description of the table, or of the name of one of its rows where that has a
line to itself. -/
inductive Table.Exposes (table : Table) (line : List Char) : Prop
  | description (member : line ∈ lines table.description.toList)
  | name {row : Row} (among : row ∈ table.rows) (inner : line ∈ innerLines row.name.toList)

/-- The notes of the table are on one line each, and the types that its rows mention are named
without underscores. -/
structure Table.Tidy (table : Table) : Prop where
  notes : table.notes.OneLine
  typeNames : ∀ row ∈ table.rows, ∀ name ∈ row.typeName, '_' ∉ name.toList

namespace Render

theorem harmlessLines_nil : HarmlessLines [] := harmlessLines_of_notMem List.not_mem_nil

theorem mem_lines_tableText {heading : String} {table : Table} {line : List Char}
    (headed : HarmlessLines heading.toList) (tidy : table.Tidy)
    (member : line ∈ lines (tableText heading table).toList) :
    Harmless line ∨ table.Exposes line := by
  unfold tableText at member
  dsimp only at member
  rw [mem_lines_joined (by simp)] at member
  obtain ⟨part, among, member⟩ := member
  simp only [List.mem_append, or_assoc] at among
  rcases among with head | description | notes | columns | rows | last
  · obtain rfl := List.mem_singleton.1 head
    have feed : HarmlessLines ['\n'] := harmlessLines_of_notMem (by decide)
    rw [String.toList_append] at member
    exact .inl (headed.append feed line member)
  · split at description
    · cases description
    · rcases List.mem_cons.1 description with rfl | blank
      · exact .inr (.description member)
      · obtain rfl := List.mem_singleton.1 blank
        exact .inl (harmlessLines_nil line member)
  · split at notes
    · cases notes
    · rcases List.mem_append.1 notes with item | blank
      · obtain ⟨text, shown, rfl⟩ := List.mem_map.1 item
        have single := feed_notMem_noteTexts tidy.notes text shown
        refine .inl (harmlessLines_of_guard (c := '*') (by decide) ?_ ?_ line member)
        · simp
        · simp [single]
      · obtain rfl := List.mem_singleton.1 blank
        exact .inl (harmlessLines_nil line member)
  · have bars : ∀ part ∈ tableHead, '|' ∈ part.toList ∧ '\n' ∉ part.toList := by
      decide
    obtain ⟨bar, single⟩ := bars part columns
    exact .inl (harmlessLines_of_guard (c := '|') (by decide) bar single line member)
  · obtain ⟨row, among, rfl⟩ := List.mem_map.1 rows
    rcases mem_lines_rowText (tidy.typeNames row among) member with harmless | inner
    · exact .inl harmless
    · exact .inr (.name among inner)
  · obtain rfl := List.mem_singleton.1 last
    exact .inl (harmlessLines_nil line member)

theorem mem_lines_tableText_of_exposes {heading : String} {table : Table} {line : List Char}
    (filled : line ≠ []) (exposes : table.Exposes line) :
    line ∈ lines (tableText heading table).toList := by
  unfold tableText
  dsimp only
  rw [mem_lines_joined (by simp)]
  cases exposes with
  | description member =>
      have shown : table.description ≠ "" := by
        intro empty
        rw [empty] at member
        exact filled (List.mem_singleton.1 member)
      exact ⟨table.description, by simp [shown], member⟩
  | @name row among inner =>
      refine ⟨rowText row, ?_, mem_lines_rowText_of_inner inner⟩
      have shown := List.mem_map_of_mem (f := rowText) among
      simp [shown]

end Render

/-! ## Manifests -/

namespace Manifest

/-- A line that one of the tables which are shown exposes. -/
inductive Exposes (manifest : Manifest) (line : List Char) : Prop
  | required (shown : manifest.required.rows ≠ []) (exposes : manifest.required.Exposes line)
  | optional (shown : manifest.optional.rows ≠ []) (exposes : manifest.optional.Exposes line)
  | nested {name : String} {table : Table} (found : manifest.nested[name]? = some table)
      (exposes : table.Exposes line)

/-- The tables are tidy, and so are the names of the nested types and the reference links. -/
structure Tidy (manifest : Manifest) : Prop where
  required : manifest.required.Tidy
  optional : manifest.optional.Tidy
  nested : ∀ (name : String) (table : Table), manifest.nested[name]? = some table →
    '_' ∉ name.toList ∧ table.Tidy
  references : ∀ name target : String, manifest.references[name]? = some target →
    Note.OneLine ⟨name, target⟩

end Manifest

namespace Render

variable {manifest : Manifest} {line : List Char}

theorem mem_inputSection_iff {heading : String} {table : Table} {part : String} :
    part ∈ inputSection heading table ↔ table.rows ≠ [] ∧ tableText heading table = part := by
  unfold inputSection
  split
  · rename_i empty
    simp [empty]
  · rename_i filled
    simp [filled, eq_comm]

theorem mem_nestedSections_iff {part : String} :
    part ∈ nestedSections manifest.nested ↔ manifest.nested.isEmpty = false ∧
      (part = "### Nested Types\n" ∨ ∃ name table, manifest.nested[name]? = some table ∧
        tableText (nestedHeading name) table = part) := by
  unfold nestedSections
  split
  · rename_i empty
    simp [empty]
  · rename_i filled
    rw [List.mem_cons, List.mem_map]
    simp only [filled, Prod.exists, Std.ExtTreeMap.mem_toList_iff_getElem?_eq_some]
    simp

theorem mem_lines_referenceSection {part : String} (tidy : manifest.Tidy)
    (among : part ∈ referenceSection manifest.references) : HarmlessLines part.toList := by
  unfold referenceSection at among
  split at among
  · cases among
  · obtain rfl := List.mem_singleton.1 among
    intro line member
    rw [mem_lines_joined (by simp)] at member
    obtain ⟨part, among, member⟩ := member
    rcases List.mem_append.1 among with entry | blank
    · obtain ⟨⟨name, target⟩, listed, rfl⟩ := List.mem_map.1 entry
      have found := Std.ExtTreeMap.mem_toList_iff_getElem?_eq_some.1 listed
      obtain ⟨named, linked⟩ := tidy.references name target found
      refine harmlessLines_of_guard (c := '[') (by decide) ?_ ?_ line member
      · simp
      · simp [named, linked]
    · obtain rfl := List.mem_singleton.1 blank
      exact harmlessLines_nil line member

/-- **The lines of a manifest as Markdown**: all but those that a table exposes are harmless. -/
theorem mem_lines_markdown (tidy : manifest.Tidy)
    (member : line ∈ lines (markdown manifest).toList) : Harmless line ∨ manifest.Exposes line := by
  have plain : ∀ heading ∈ ["### Required Inputs", "### Optional Inputs", "### Nested Types\n"],
      '_' ∉ heading.toList := by
    decide
  have titled {heading : String} (among : heading ∈
      ["### Required Inputs", "### Optional Inputs", "### Nested Types\n"]) :
      HarmlessLines heading.toList := harmlessLines_of_notMem (plain heading among)
  unfold markdown at member
  by_cases empty : inputSection "### Required Inputs" manifest.required ++
      inputSection "### Optional Inputs" manifest.optional ++ nestedSections manifest.nested ++
        referenceSection manifest.references = []
  · rw [empty] at member
    exact .inl (harmlessLines_nil line member)
  · rw [mem_lines_joined empty] at member
    obtain ⟨part, among, member⟩ := member
    simp only [List.mem_append, or_assoc] at among
    rcases among with required | optional | nested | references
    · obtain ⟨shown, rfl⟩ := mem_inputSection_iff.1 required
      exact (mem_lines_tableText (titled (by simp)) tidy.required member).imp_right
        (.required shown)
    · obtain ⟨shown, rfl⟩ := mem_inputSection_iff.1 optional
      exact (mem_lines_tableText (titled (by simp)) tidy.optional member).imp_right
        (.optional shown)
    · rcases (mem_nestedSections_iff.1 nested).2 with rfl | ⟨name, table, found, rfl⟩
      · exact .inl (titled (by simp) line member)
      · obtain ⟨named, tidy⟩ := tidy.nested name table found
        have headed : HarmlessLines (nestedHeading name).toList := by
          refine harmlessLines_of_notMem ?_
          simp [nestedHeading, named]
        exact (mem_lines_tableText headed tidy member).imp_right (.nested found)
    · exact .inl (mem_lines_referenceSection tidy references line member)

/-- What a table exposes is a line of the manifest as Markdown. -/
theorem mem_lines_markdown_of_exposes (filled : line ≠ []) (exposes : manifest.Exposes line) :
    line ∈ lines (markdown manifest).toList := by
  have inSection : ∃ part ∈ inputSection "### Required Inputs" manifest.required ++
      inputSection "### Optional Inputs" manifest.optional ++ nestedSections manifest.nested ++
        referenceSection manifest.references, line ∈ lines part.toList := by
    simp only [List.mem_append, or_assoc]
    cases exposes with
    | required shown exposes =>
        exact ⟨_, .inl (mem_inputSection_iff.2 ⟨shown, rfl⟩),
          mem_lines_tableText_of_exposes filled exposes⟩
    | optional shown exposes =>
        exact ⟨_, .inr (.inl (mem_inputSection_iff.2 ⟨shown, rfl⟩)),
          mem_lines_tableText_of_exposes filled exposes⟩
    | @nested name table found exposes =>
        have any : manifest.nested.isEmpty = false := by
          rw [Bool.eq_false_iff, Ne, Std.ExtTreeMap.isEmpty_iff]
          intro empty
          rw [empty] at found
          cases found
        have among := mem_nestedSections_iff.2 ⟨any, .inr ⟨name, table, found, rfl⟩⟩
        exact ⟨_, .inr (.inr (.inl among)), mem_lines_tableText_of_exposes filled exposes⟩
  obtain ⟨part, among, member⟩ := inSection
  rw [markdown, mem_lines_joined (List.ne_nil_of_mem among)]
  exact ⟨part, among, member⟩

end Render

end InputDocs
