import InputDocs.Proofs.Splice.Division

/-!
# Proofs.Splice.Sequence -- updates one after the other

Whether a document can be updated depends on its regions and not on the content
(`exists_splice`). An update keeps the marker lines and what is outside them, so the next update
finds the regions where they were, as long as the content closes none of them. What the first
update put there is then gone, and the second update is one of the document itself
(`splice_splice`).

So every update of a sequence leaves what it would leave if it were the only one
(`spliceAll_eq`), and nothing outside the regions is ever changed (`spliceAll_absorbs`). Only the
last content may close a region, because no update follows it.
-/

namespace InputDocs

set_option autoImplicit false

open Splice
open Text (lines)
open Unicode (trim)

/-- The document updated with one content after the other. -/
def spliceAll (document start stop : String) (contents : List String) :
    Except Splice.Error String :=
  contents.foldlM (fun document content => splice document start stop content) document

variable {document between start stop content : String}

/-- A document with a region takes every content. -/
theorem exists_splice {regions : List Region} {tail : List (List Char)} (any : regions ≠ [])
    (divided : Divided start.toList stop.toList regions tail)
    (same : lines document.toList = assemble regions tail) (content : String) :
    ∃ updated, splice document start stop content = .ok updated ∧
      lines updated.toList = assemble (regions.map (Region.withInner (bodyLines content))) tail := by
  have divides : Divides document start stop regions tail := ⟨any, divided, same⟩
  refine ⟨String.ofList (filledText content regions tail), ?_, ?_⟩
  · exact splice_eq_ok_iff_divides.2 ⟨regions, tail, divides, String.toList_ofList⟩
  · rw [String.toList_ofList, divides.lines_filledText]

/-- **The second of two updates is an update of the document itself**, if the first content closes
no region. -/
theorem splice_splice (done : splice document start stop content = .ok between)
    (unclosed : ∀ line ∈ bodyLines content, trim line ≠ stop.toList) (next : String) :
    splice between start stop next = splice document start stop next := by
  obtain ⟨regions, tail, any, divided, same, shown⟩ := splice_eq_ok_iff.1 done
  obtain ⟨direct, directly, left⟩ := exists_splice any divided same next
  obtain ⟨second, again, right⟩ :=
    exists_splice (mt List.map_eq_nil_iff.1 any) (divided.withInner unclosed) shown next
  rw [again, directly]
  refine congrArg Except.ok (String.toList_injective (Text.lines_injective ?_))
  rw [right, left, List.map_map]
  rfl

/-- Every update of a sequence leaves what it would leave if it were the only one, if no content
before it closes a region. -/
theorem spliceAll_eq {earlier : List String}
    (done : splice document start stop content = .ok between)
    (unclosed : ∀ content ∈ earlier, ∀ line ∈ bodyLines content, trim line ≠ stop.toList)
    (last : String) :
    spliceAll document start stop (earlier ++ [last]) = splice document start stop last := by
  induction earlier generalizing document content between with
  | nil => exact bind_pure (splice document start stop last)
  | cons first rest ih =>
      obtain ⟨here, later⟩ := List.forall_mem_cons.1 unclosed
      obtain ⟨regions, tail, any, divided, same, _⟩ := splice_eq_ok_iff.1 done
      obtain ⟨next, begun, _⟩ := exists_splice any divided same first
      calc spliceAll document start stop (first :: rest ++ [last])
          = spliceAll next start stop (rest ++ [last]) := by
            rw [spliceAll, List.cons_append, List.foldlM_cons, begun]
            rfl
        _ = splice next start stop last :=
            ih ((splice_splice begun here content).trans done) later
        _ = splice document start stop last := splice_splice begun here last

/-- **Repeated updates are absorbed.** If no content but the last closes a region, every step of a
sequence of updates succeeds, leaves what its own content alone leaves, and keeps the marker lines
and everything outside the regions. -/
theorem spliceAll_absorbs {first : String} {rest : List String}
    (done : splice document start stop first = .ok between)
    (unclosed : ∀ content ∈ (first :: rest).dropLast, ∀ line ∈ bodyLines content,
      trim line ≠ stop.toList) :
    ∃ regions tail, Divided start.toList stop.toList regions tail ∧
      lines document.toList = assemble regions tail ∧
        ∀ earlier last, earlier ++ [last] <+: first :: rest →
          ∃ updated, spliceAll document start stop (earlier ++ [last]) = .ok updated ∧
            splice document start stop last = .ok updated ∧
              lines updated.toList =
                assemble (regions.map (Region.withInner (bodyLines last))) tail := by
  obtain ⟨regions, tail, any, divided, same, _⟩ := splice_eq_ok_iff.1 done
  refine ⟨regions, tail, divided, same, ?_⟩
  rintro earlier last ⟨others, whole⟩
  obtain ⟨updated, alone, shown⟩ := exists_splice any divided same last
  refine ⟨updated, ?_, alone, shown⟩
  rw [← alone]
  refine spliceAll_eq done (fun content member => unclosed content ?_) last
  -- A content before the last of the prefix is not the last of the whole list.
  rw [← whole, List.append_assoc, List.dropLast_append_of_ne_nil (by simp)]
  exact List.mem_append_left _ member

/-- Equal markers, with carriage returns around one of them, and contents that are empty or look
like a marker in the middle of a line. -/
theorem spliceAll_absorbs_equalMarkers :
    let document := "a\n--\nold\n -- \r\nb"
    splice document "--" "--" "x -- y\n\n" = .ok "a\n--\nx -- y\n -- \r\nb" ∧
      spliceAll document "--" "--" ["x -- y\n\n", "", "--"] = .ok "a\n--\n--\n -- \r\nb" := by
  intro document
  have done : splice document "--" "--" "x -- y\n\n" = .ok "a\n--\nx -- y\n -- \r\nb" := by
    unfold document
    rfl
  refine ⟨done, ?_⟩
  have unclosed : ∀ content ∈ ["x -- y\n\n", "", "--"].dropLast, ∀ line ∈ bodyLines content,
      trim line ≠ "--".toList := by
    decide +kernel
  obtain ⟨_, _, _, _, steps⟩ := spliceAll_absorbs done unclosed
  obtain ⟨updated, all, alone, _⟩ := steps ["x -- y\n\n", ""] "--" (List.prefix_refl _)
  have last : splice document "--" "--" "--" = .ok "a\n--\n--\n -- \r\nb" := by
    unfold document
    rfl
  exact all.trans (alone.symm.trans last)

end InputDocs
