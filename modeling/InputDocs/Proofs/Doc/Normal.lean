import InputDocs.Doc
import InputDocs.Proofs.Text.LineEnds

/-!
# Proofs.Doc.Normal -- documentation written out and read again

Documentation can be written out as lines again, the content first and then the directives
(`Doc.written`). What was read from lines has a form in which nothing is lost by that
(`Doc.Normal`): no content line is taken for a directive, there are no blank lines at the ends to
be dropped, and a directive is found again on its own line, also if its content is empty and the
blank after its name is trimmed off (`Doc.directive?_line`).

So reading what is written out gives the same documentation, whether the lines are marked as the
lines of a comment or joined to a description (`Doc.written_again`).
-/

namespace InputDocs

set_option autoImplicit false

open Unicode (isBlank trim dropEnd)

/-! ## Trimmed lines -/

namespace Unicode

theorem dropWhile_eq_self_iff {p : Char → Bool} {text : List Char} :
    text.dropWhile p = text ↔ ∀ c ∈ text.head?, p c = false := by
  cases text <;> simp [List.dropWhile_eq_self_iff]

theorem dropEnd_eq_self_iff {p : Char → Bool} {text : List Char} :
    dropEnd p text = text ↔ ∀ c ∈ text.getLast?, p c = false := by
  rw [dropEnd, List.reverse_eq_iff, dropWhile_eq_self_iff, List.head?_reverse]

/-- A text is trimmed if it neither begins nor ends with white space. -/
theorem trim_eq_self_iff {text : List Char} :
    trim text = text ↔
      (∀ c ∈ text.head?, isBlank c = false) ∧ ∀ c ∈ text.getLast?, isBlank c = false := by
  constructor
  · intro trimmed
    obtain ⟨tail, whole, _⟩ := exists_append_dropEnd isBlank (text.dropWhile isBlank)
    rw [← trim, trimmed] at whole
    -- Nothing is dropped in front, because what is left is as long as the text.
    have front : text.dropWhile isBlank = text := by
      refine (List.dropWhile_sublist isBlank).eq_of_length_le ?_
      rw [whole, List.length_append]
      omega
    rw [trim, front] at trimmed
    exact ⟨dropWhile_eq_self_iff.1 front, dropEnd_eq_self_iff.1 trimmed⟩
  · rintro ⟨front, back⟩
    rw [trim, dropWhile_eq_self_iff.2 front, dropEnd_eq_self_iff.2 back]

/-- White space before a text is trimmed off. -/
theorem trim_cons {c : Char} (blank : isBlank c = true) (text : List Char) :
    trim (c :: text) = trim text := by
  rw [trim, List.dropWhile_cons_of_pos blank, trim]

end Unicode

/-- The line of a directive. -/
def Directive.line (directive : Directive) : String :=
  "@" ++ directive.name ++ " " ++ directive.content

namespace Doc

/-- The lines that documentation is written out as. -/
def written (doc : Doc) : List String := doc.lines ++ doc.directives.map Directive.line

/-- Nothing is lost when the documentation is written out. -/
structure Normal [PatternEngine] (doc : Doc) : Prop where
  trimmed : ∀ line ∈ doc.lines, trim line.toList = line.toList
  prose : ∀ line ∈ doc.lines, directive? line.toList = none
  ends : dropBlankEnds doc.lines = doc.lines
  directives : ∀ directive ∈ doc.directives,
    directive? (trim directive.line.toList) = some directive

/-! ## What is read is normal -/

theorem toList_line (directive : Directive) :
    directive.line.toList = '@' :: (directive.name.toList ++ ' ' :: directive.content.toList) := by
  simp [Directive.line]

/-- A name and a content on a trimmed line make a trimmed line again when the content is trimmed
on its own. -/
theorem trim_line {name content : List Char}
    (trimmed : trim ('@' :: (name ++ ' ' :: content)) = '@' :: (name ++ ' ' :: content)) :
    trim ('@' :: (name ++ ' ' :: trim content)) = '@' :: (name ++ ' ' :: trim content) := by
  have last (text : List Char) :
      ('@' :: (name ++ ' ' :: text)).getLast? = (' ' :: text).getLast? := by
    rw [← List.cons_append, List.getLast?_append_of_ne_nil _ (List.cons_ne_nil _ _)]
  have visible := (Unicode.trim_eq_self_iff.1 trimmed).2
  rw [last] at visible
  refine Unicode.trim_eq_self_iff.2 ⟨by simp [isBlank], ?_⟩
  rw [last]
  -- The last character of the line is one of the content, so trimming leaves some of the content.
  cases content with
  | nil => exact absurd (visible ' ' rfl) (by decide)
  | cons first others =>
      rw [List.getLast?_cons_cons] at visible
      have kept := Unicode.mem_trim_of_visible
        (visible _ (List.getLast?_eq_some_getLast (List.cons_ne_nil first others)))
        (List.getLast_mem _)
      obtain ⟨next, more, left⟩ := List.exists_cons_of_ne_nil (List.ne_nil_of_mem kept)
      have ends := (Unicode.trim_eq_self_iff.1 (Unicode.trim_trim (first :: others))).2
      rw [left] at ends ⊢
      rwa [List.getLast?_cons_cons]

/-- A name without blanks is taken whole. -/
theorem inside_of_notMem {name : List Char} (single : ' ' ∉ name) :
    ∀ c ∈ name, decide (c ≠ ' ') = true := by
  intro c member
  exact decide_eq_true (ne_of_mem_of_not_mem member single)

/-- What is left when blank lines are dropped are lines. -/
theorem mem_of_mem_dropBlankEnds {lines : List String} {line : String}
    (member : line ∈ dropBlankEnds lines) : line ∈ lines :=
  (List.dropWhile_sublist _).subset ((List.rdropWhile_prefix (· = "") _).subset member)

/-- Blank lines are dropped at once. -/
theorem dropBlankEnds_dropBlankEnds (lines : List String) :
    dropBlankEnds (dropBlankEnds lines) = dropBlankEnds lines := by
  have front : (dropBlankEnds lines).dropWhile (· = "") = dropBlankEnds lines :=
    Text.dropWhile_rdropWhile_dropWhile (· = "") lines
  rw [dropBlankEnds, front]
  exact List.rdropWhile_idempotent (· = "") (lines.dropWhile (· = ""))

variable [PatternEngine]

/-- What a directive line says is its name up to a blank and the rest. -/
theorem directive?_eq {name content : List Char} (named : name ≠ []) (single : ' ' ∉ name) :
    directive? ('@' :: (name ++ ' ' :: content)) =
      some (.ofContent (String.ofList name) content) := by
  have inside := inside_of_notMem single
  simp only [directive?, List.takeWhile_append_of_pos inside, List.dropWhile_append_of_pos inside]
  simp [named]

/-- A directive line that ends with its name has no content. -/
theorem directive?_name {name : List Char} (named : name ≠ []) (single : ' ' ∉ name) :
    directive? ('@' :: name) = some (.ofContent (String.ofList name) []) := by
  have inside := inside_of_notMem single
  simp only [directive?, List.takeWhile_eq_self_iff.2 inside, List.dropWhile_eq_nil_iff.2 inside]
  simp [named]

/-- A directive line is a name, and possibly a blank and a content. -/
theorem exists_of_directive? {line : List Char} {directive : Directive}
    (found : directive? line = some directive) :
    ∃ name, name ≠ [] ∧ ' ' ∉ name ∧
      (line = '@' :: name ∧ directive = .ofContent (String.ofList name) [] ∨
        ∃ content, line = '@' :: (name ++ ' ' :: content) ∧
          directive = .ofContent (String.ofList name) content) := by
  cases line with
  | nil => cases found
  | cons mark rest =>
      by_cases isMark : mark = '@'
      · subst isMark
        have single : ' ' ∉ rest.takeWhile (· ≠ ' ') := fun member => by
          simpa using List.mem_takeWhile_imp member
        have named : rest.takeWhile (· ≠ ' ') ≠ [] := by
          intro nameless
          simp only [directive?, nameless] at found
          cases found
        refine ⟨_, named, single, ?_⟩
        have parted := List.takeWhile_append_dropWhile (p := (· ≠ ' ')) (l := rest)
        have head := List.head?_dropWhile_not (· ≠ ' ') rest
        cases after : rest.dropWhile (· ≠ ' ') with
        | nil =>
            rw [after, List.append_nil] at parted
            rw [parted] at named single ⊢
            rw [directive?_name named single] at found
            exact .inl ⟨rfl, (Option.some_inj.1 found).symm⟩
        | cons blank content =>
            rw [after] at parted head
            obtain rfl : blank = ' ' := by simpa using head
            rw [← parted, directive?_eq named single] at found
            exact .inr ⟨content, by rw [parted], (Option.some_inj.1 found).symm⟩
      · rw [directive?.eq_2 _ (by simpa using isMark)] at found
        cases found

/-- A directive is found again on its own line. -/
theorem directive?_line {line : List Char} {directive : Directive} (trimmed : trim line = line)
    (found : directive? line = some directive) :
    directive? (trim directive.line.toList) = some directive := by
  obtain ⟨name, named, single, ⟨rfl, rfl⟩ | ⟨content, rfl, rfl⟩⟩ := exists_of_directive? found
  · -- The blank after the name is trimmed off.
    have written : (Directive.ofContent (String.ofList name) []).line.toList =
        ('@' :: name) ++ [' '] := by
      simp [toList_line, Directive.ofContent, trim]
    rw [written, Unicode.trim_concat (by decide), trimmed, found]
  · have written : (Directive.ofContent (String.ofList name) content).line.toList =
        '@' :: (name ++ ' ' :: trim content) := by
      simp [toList_line, Directive.ofContent]
    rw [written, trim_line trimmed, directive?_eq named single]
    simp [Directive.ofContent, Unicode.trim_trim]

/-- A content line is one of the lines, trimmed, and no directive. -/
theorem exists_of_mem_ofLines {lines : List (List Char)} {line : String}
    (member : line ∈ (ofLines lines).lines) :
    ∃ raw ∈ lines, line.toList = trim raw ∧ directive? (trim raw) = none := by
  obtain ⟨_, kept, rfl⟩ := List.mem_map.1 (mem_of_mem_dropBlankEnds member)
  obtain ⟨among, prose⟩ := List.mem_filter.1 kept
  obtain ⟨raw, given, rfl⟩ := List.mem_map.1 among
  exact ⟨raw, given, String.toList_ofList, Option.isNone_iff_eq_none.1 prose⟩

/-- A directive is one of the lines, trimmed. -/
theorem exists_of_mem_directives {lines : List (List Char)} {directive : Directive}
    (member : directive ∈ (ofLines lines).directives) :
    ∃ raw ∈ lines, directive? (trim raw) = some directive := by
  obtain ⟨_, among, found⟩ := List.mem_filterMap.1 member
  obtain ⟨raw, given, rfl⟩ := List.mem_map.1 among
  exact ⟨raw, given, found⟩

/-- Documentation that was read is normal. -/
theorem normal_ofLines (lines : List (List Char)) : (ofLines lines).Normal where
  trimmed := by
    intro line member
    obtain ⟨raw, _, spelled, _⟩ := exists_of_mem_ofLines member
    rw [spelled, Unicode.trim_trim]
  prose := by
    intro line member
    obtain ⟨raw, _, spelled, prose⟩ := exists_of_mem_ofLines member
    rw [spelled, prose]
  ends := dropBlankEnds_dropBlankEnds _
  directives := by
    intro directive member
    obtain ⟨raw, _, found⟩ := exists_of_mem_directives member
    exact directive?_line (Unicode.trim_trim raw) found

/-! ## Reading normal documentation -/

/-- Lines that are, up to white space at their ends, what normal documentation is written out as
give that documentation. -/
theorem Normal.ofLines_written {doc : Doc} (normal : doc.Normal) {lines : List (List Char)}
    (same : lines.map trim = doc.written.map fun line => trim line.toList) :
    ofLines lines = doc := by
  have content : (doc.lines.map fun line => trim line.toList) = doc.lines.map String.toList :=
    List.map_congr_left normal.trimmed
  rw [written, List.map_append, List.map_map, content] at same
  have kept : (doc.lines.map String.toList).filter (fun line => (directive? line).isNone) =
      doc.lines.map String.toList := by
    refine List.filter_eq_self.2 ?_
    simpa using normal.prose
  have dropped : (doc.directives.map ((fun line => trim line.toList) ∘ Directive.line)).filter
      (fun line => (directive? line).isNone) = [] := by
    refine List.filter_eq_nil_iff.2 ?_
    rintro _ member
    obtain ⟨directive, given, rfl⟩ := List.mem_map.1 member
    simp [normal.directives directive given]
  have unread : (doc.lines.map String.toList).filterMap directive? = [] := by
    refine List.filterMap_eq_nil_iff.2 ?_
    simpa using normal.prose
  have read : (doc.directives.map ((fun line => trim line.toList) ∘ Directive.line)).filterMap
      directive? = doc.directives := by
    rw [List.filterMap_map]
    exact (List.filterMap_congr normal.directives).trans List.filterMap_some
  simp only [ofLines, same, List.filter_append, kept, dropped, List.append_nil,
    List.filterMap_append, unread, read, List.nil_append]
  simp [normal.ends]

/-- A blank after the mark of a line comment is trimmed off. -/
theorem Normal.ofComment_written {doc : Doc} (normal : doc.Normal) :
    ofComment (.lines (doc.written.map fun line => "/// " ++ line)) = doc := by
  refine normal.ofLines_written ?_
  rw [List.map_map, List.map_map]
  refine List.map_congr_left fun line _ => ?_
  have spelled : ("/// " ++ line).toList = "///".toList ++ ' ' :: line.toList := by simp
  simp only [Function.comp_apply, spelled, Text.stripStart_append]
  exact Unicode.trim_cons (by decide) _

/-- Lines without line feeds are found again in the text that they are joined to. -/
theorem Normal.ofDescription_written {doc : Doc} (normal : doc.Normal)
    (single : ∀ line ∈ doc.written, '\n' ∉ line.toList) :
    ofDescription ("\n".intercalate doc.written) = doc := by
  have joined : ("\n".intercalate doc.written).toList =
      ['\n'].intercalate (doc.written.map String.toList) := by
    simp [String.toList_intercalate]
  rw [ofDescription, joined]
  by_cases nothing : doc.written = []
  · -- Nothing is joined to one empty line, which is no content.
    obtain ⟨noLines, noDirectives⟩ := List.append_eq_nil_iff.1 nothing
    have isEmpty : doc = empty := by
      rw [List.map_eq_nil_iff] at noDirectives
      cases doc
      simp_all [empty]
    rw [nothing, isEmpty]
    rfl
  · refine normal.ofLines_written ?_
    rw [← Text.lines, Text.lines_intercalate_of_notMem (mt List.map_eq_nil_iff.1 nothing)
      (List.forall_mem_map.2 single), List.map_map]
    rfl

/-- The line of a directive has no characters but those of the line that it was found on, and a
blank. -/
theorem mem_of_mem_line {line : List Char} {directive : Directive} {c : Char}
    (found : directive? line = some directive) (member : c ∈ directive.line.toList) :
    c ∈ line ∨ c = ' ' := by
  rw [toList_line] at member
  obtain ⟨name, _, _, ⟨rfl, rfl⟩ | ⟨content, rfl, rfl⟩⟩ := exists_of_directive? found
  · simpa [Directive.ofContent, trim, or_assoc] using member
  · have kept : c ∈ trim content → c ∈ content := Unicode.mem_of_mem_trim
    simp only [Directive.ofContent, String.toList_ofList, List.mem_cons, List.mem_append]
      at member ⊢
    grind

/-- A description is written out in lines without line feeds. -/
theorem feed_notMem_of_mem_written {text line : String}
    (member : line ∈ (ofDescription text).written) : '\n' ∉ line.toList := by
  have single {raw : List Char} (given : raw ∈ Text.lines text.toList) : '\n' ∉ trim raw :=
    mt Unicode.mem_of_mem_trim (Text.feed_notMem_of_mem_lines given)
  rcases List.mem_append.1 member with content | named
  · obtain ⟨raw, given, spelled, _⟩ := exists_of_mem_ofLines content
    rw [spelled]
    exact single given
  · obtain ⟨directive, among, rfl⟩ := List.mem_map.1 named
    obtain ⟨raw, given, found⟩ := exists_of_mem_directives among
    intro feed
    rcases mem_of_mem_line found feed with inside | isBlank
    · exact single given inside
    · exact absurd isBlank (by decide)

/-- **Documentation that was read is read again as it is written out**: from a comment with one
marked line for each content line and each directive, and from a description with those lines
unmarked. -/
theorem written_again (comment : Comment) (text : String) :
    ofComment (.lines ((ofComment comment).written.map fun line => "/// " ++ line)) =
        ofComment comment ∧
      ofDescription ("\n".intercalate (ofDescription text).written) = ofDescription text := by
  constructor
  · have normal : (ofComment comment).Normal := by
      cases comment <;> exact normal_ofLines _
    exact normal.ofComment_written
  · exact (normal_ofLines _).ofDescription_written fun _ => feed_notMem_of_mem_written

end Doc

end InputDocs
