import InputDocs.Proofs.Manifest.Tidy
import InputDocs.Proofs.Splice.Regions
import InputDocs.Render.Format

/-!
# Proofs.Render.Update -- updating a document twice

To update a document is to render the manifest of some variables and to put the rendering between
the standard markers. The next update reads what this one wrote. It changes nothing exactly if the
rendering has no line that is the end marker (`splice_again_iff`).

In JSON no line is. In Markdown a line can be the end marker only if it stands alone
(`Manifest.StandsAlone`): user text is escaped in the cells of tables, but the description of a
nested type and the name of a variable are written as they are, line feeds included. So a second
update can differ from the first, and it does exactly if one of these lines is the end marker
(`update_again_iff`).
-/

namespace InputDocs.Render

set_option autoImplicit false

open Splice (defaultStart defaultEnd bodyLines)
open Unicode (trim)

variable [PatternEngine] {options : Options} {inputs : List Variable}

omit [PatternEngine] in
theorem ne_nil_of_trim_eq {line : List Char} (stops : trim line = defaultEnd.toList) :
    line ≠ [] := by
  rintro rfl
  exact absurd stops (by decide)

/-- The end marker is in the rendering of a manifest exactly if it is a line that stands alone in
the Markdown. -/
theorem forall_bodyLines_trim_ne_iff (format : Format) :
    (∀ line ∈ bodyLines (format.render (.ofVariables options inputs)),
        trim line ≠ defaultEnd.toList) ↔
      (format = .markdown → ∀ line, Manifest.StandsAlone options inputs line →
        trim line ≠ defaultEnd.toList) := by
  cases format with
  | json =>
      refine iff_of_true ?_ nofun
      intro line member stops
      rw [Splice.mem_bodyLines_iff (ne_nil_of_trim_eq stops)] at member
      exact (harmlessLines_json _ line member).trim_ne stops
  | markdown =>
      constructor
      · intro free _ line alone stops
        have filled := ne_nil_of_trim_eq stops
        have exposes := (Manifest.exposes_ofVariables_iff filled).2 alone
        have member := mem_lines_markdown_of_exposes filled exposes
        exact free line ((Splice.mem_bodyLines_iff filled).2 member) stops
      · intro free line member stops
        have filled := ne_nil_of_trim_eq stops
        rw [Splice.mem_bodyLines_iff filled] at member
        rcases mem_lines_markdown (Manifest.tidy_ofVariables options inputs) member with
          harmless | exposes
        · exact harmless.trim_ne stops
        · exact free rfl line ((Manifest.exposes_ofVariables_iff filled).1 exposes) stops

/-- **Updating a document is idempotent as long as no user line is the end marker.** -/
theorem update_again_iff {format : Format} {document updated : String}
    (done : splice document defaultStart defaultEnd (format.render (.ofVariables options inputs)) =
      .ok updated) :
    splice updated defaultStart defaultEnd (format.render (.ofVariables options inputs)) =
        .ok updated ↔
      (format = .markdown → ∀ line, Manifest.StandsAlone options inputs line →
        trim line ≠ defaultEnd.toList) := by
  have differ : defaultStart ≠ defaultEnd := by decide
  rw [splice_again_iff differ done, forall_bodyLines_trim_ne_iff]

/-! ## At a document of two marker lines -/

/-- The marker lines with content between them. -/
def enclosed (content : String) : String :=
  String.ofList (['\n'].intercalate
    [defaultStart.toList, Unicode.dropEnd (· = '\n') content.toList, defaultEnd.toList])

omit [PatternEngine] in
theorem splice_markers (content : String) :
    splice (defaultStart ++ "\n" ++ defaultEnd) defaultStart defaultEnd content =
      .ok (enclosed content) := by
  have markers : Text.lines (defaultStart ++ "\n" ++ defaultEnd).toList =
      [defaultStart.toList, defaultEnd.toList] := by
    decide
  let body := Unicode.dropEnd (· = '\n') content.toList
  refine splice_eq_ok_iff_fill.2 ⟨?_, [defaultStart.toList, body, defaultEnd.toList], ?_, ?_⟩
  · exact ⟨defaultStart.toList, by rw [markers]; exact List.mem_cons_self, by decide⟩
  · rw [markers]
    rfl
  · rw [enclosed, String.toList_ofList, Text.lines_intercalate (List.cons_ne_nil _ _)]

omit [PatternEngine] in
/-- A nested type with a comment that is put into its table as a description. -/
theorem update_again_documented :
    let _ : PatternEngine := .lenient
    let net : Variable :=
      { name := "net", type := "object(\x7b /// DNS\n dns = object(\x7b ip = any \x7d) \x7d)" }
    let rendered := Format.markdown.render (.ofVariables {} [net])
    splice (defaultStart ++ "\n" ++ defaultEnd) defaultStart defaultEnd rendered =
        .ok (enclosed rendered) ∧
      splice (enclosed rendered) defaultStart defaultEnd rendered = .ok (enclosed rendered) := by
  intro _ net rendered
  have done := splice_markers rendered
  refine ⟨done, (update_again_iff done).2 ?_⟩
  have descriptions : ∀ entry ∈ (Manifest.ofVariables {} [net]).nested.toList,
      ∀ line ∈ Text.lines entry.2.description.toList, trim line ≠ defaultEnd.toList := by
    decide +kernel
  rintro _ line (⟨among, inner⟩ | ⟨found, member⟩)
  · obtain rfl := List.mem_singleton.1 among
    revert line
    decide
  · exact descriptions _ (Std.ExtTreeMap.mem_toList_iff_getElem?_eq_some.2 found) line member

omit [PatternEngine] in
/-- The same with the end marker as the comment: the second update differs from the first. -/
theorem update_again_changes :
    let _ : PatternEngine := .lenient
    let net : Variable :=
      { name := "net"
        type := "object(\x7b /// <!-- TFDOCS_EXTRAS_END -->\n dns = object(\x7b ip = any \x7d) \x7d)" }
    let rendered := Format.markdown.render (.ofVariables {} [net])
    splice (defaultStart ++ "\n" ++ defaultEnd) defaultStart defaultEnd rendered =
        .ok (enclosed rendered) ∧
      splice (enclosed rendered) defaultStart defaultEnd rendered ≠ .ok (enclosed rendered) := by
  intro _ net rendered
  have done := splice_markers rendered
  refine ⟨done, fun again => ?_⟩
  have free := (splice_again_iff (by decide) done).1 again
  obtain ⟨entry, listed, line, member, stops⟩ :
      ∃ entry ∈ (Manifest.ofVariables {} [net]).nested.toList,
        ∃ line ∈ Text.lines entry.2.description.toList, trim line = defaultEnd.toList := by
    decide +kernel
  have alone := Manifest.StandsAlone.description
    (Std.ExtTreeMap.mem_toList_iff_getElem?_eq_some.1 listed) member
  exact (forall_bodyLines_trim_ne_iff .markdown).1 free rfl line alone stops

end InputDocs.Render
