import InputDocs.Proofs.Splice.Regions

/-!
# Proofs.Splice.Division -- what an update does, without the scan

The lines of a document can be divided into regions in one way at most, because each part ends at
the first line that can end it (`Splice.Divided.unique`). So the regions are a matter of the
document and its markers alone, and they say everything about an update (`splice_outcome`): it
succeeds exactly if the document divides and has a region, and then it changes what stands between
the marker lines and not a byte besides; without a line that is the start marker it misses that
marker, and in every other case it misses an end marker.
-/

namespace InputDocs

set_option autoImplicit false

open Splice
open Text (lines)
open Unicode (trim dropEnd)

namespace Splice

/-! ## One way to divide a document -/

/-- A list is cut in one way before the first of its members with a property. -/
theorem append_cons_unique {α : Type} {p : α → Prop} {before before' rest rest' : List α}
    {mark mark' : α} (outside : ∀ x ∈ before, ¬ p x) (here : p mark)
    (outside' : ∀ x ∈ before', ¬ p x) (here' : p mark')
    (same : before ++ mark :: rest = before' ++ mark' :: rest') :
    before = before' ∧ mark = mark' ∧ rest = rest' := by
  induction before generalizing before' with
  | nil =>
      cases before' with
      | nil =>
          obtain ⟨first, later⟩ := List.cons.inj same
          exact ⟨rfl, first, later⟩
      | cons x others =>
          obtain ⟨first, _⟩ := List.cons.inj same
          exact absurd (first ▸ here) (outside' x List.mem_cons_self)
  | cons x others ih =>
      obtain ⟨notHere, later⟩ := List.forall_mem_cons.1 outside
      cases before' with
      | nil =>
          obtain ⟨first, _⟩ := List.cons.inj same
          exact absurd (first ▸ here') notHere
      | cons y others' =>
          obtain ⟨first, following⟩ := List.cons.inj same
          obtain ⟨sameBefore, sameMark, sameRest⟩ :=
            ih later (List.forall_mem_cons.1 outside').2 following
          exact ⟨by rw [first, sameBefore], sameMark, sameRest⟩

variable {start stop : List Char} {regions regions' : List Region} {tail tail' : List (List Char)}

theorem opening_mem_assemble (region : Region) (others : List Region)
    (tail : List (List Char)) : region.opening ∈ assemble (region :: others) tail := by
  rw [assemble_cons]
  simp

/-- **A document is divided in one way.** -/
theorem Divided.unique (divided : Divided start stop regions tail)
    (divided' : Divided start stop regions' tail')
    (same : assemble regions tail = assemble regions' tail') :
    regions = regions' ∧ tail = tail' := by
  induction regions generalizing regions' with
  | nil =>
      cases regions' with
      | nil => exact ⟨rfl, same⟩
      | cons region' others' =>
          have member : region'.opening ∈ tail := by
            rw [← assemble_nil tail, same]
            exact opening_mem_assemble region' others' tail'
          exact absurd (divided_cons.1 divided').1.opening (divided.tail _ member)
  | cons region others ih =>
      cases regions' with
      | nil =>
          have member : region.opening ∈ tail' := by
            rw [← assemble_nil tail', ← same]
            exact opening_mem_assemble region others tail
          exact absurd (divided_cons.1 divided).1.opening (divided'.tail _ member)
      | cons region' others' =>
          obtain ⟨⟨before, opening, inner, closing⟩, later⟩ := divided_cons.1 divided
          obtain ⟨⟨before', opening', inner', closing'⟩, later'⟩ := divided_cons.1 divided'
          rw [assemble_cons, assemble_cons] at same
          obtain ⟨sameBefore, sameOpening, inside⟩ :=
            append_cons_unique before opening before' opening' same
          obtain ⟨sameInner, sameClosing, following⟩ :=
            append_cons_unique inner closing inner' closing' inside
          obtain ⟨sameOthers, sameTail⟩ := ih later later' following
          have sameRegion : region = region' := by
            cases region
            cases region'
            exact Region.mk.injEq .. ▸ ⟨sameBefore, sameOpening, sameInner, sameClosing⟩
          exact ⟨by rw [sameRegion, sameOthers], sameTail⟩

/-! ## The outcome of an update -/

/-- The document is divided into these regions and this tail, and there is a region. -/
structure Divides (document start stop : String) (regions : List Region)
    (tail : List (List Char)) : Prop where
  any : regions ≠ []
  divided : Divided start.toList stop.toList regions tail
  whole : lines document.toList = assemble regions tail

/-- The text of a document with `content`, less the line feeds at its end, in every region. -/
def filledText (content : String) (regions : List Region) (tail : List (List Char)) : List Char :=
  ['\n'].intercalate
    (assemble (regions.map (Region.withInner [dropEnd (· = '\n') content.toList])) tail)

end Splice

variable {document start stop content updated : String}

theorem Splice.Divides.lines_filledText {regions : List Region} {tail : List (List Char)}
    (divides : Divides document start stop regions tail) (content : String) :
    lines (filledText content regions tail) =
      assemble (regions.map (Region.withInner (bodyLines content))) tail := by
  have single : ∀ line ∈ assemble regions tail, '\n' ∉ line := fun line member =>
    Text.feed_notMem_of_mem_lines (divides.whole ▸ member)
  obtain ⟨region, others, rfl⟩ := List.exists_cons_of_ne_nil divides.any
  rw [filledText, Text.lines_intercalate, flatMap_lines_assemble single, bodyLines]
  rw [List.map_cons, assemble_cons]
  simp

/-- An update puts the content into every region of the document, byte for byte. -/
theorem splice_eq_ok_iff_divides :
    splice document start stop content = .ok updated ↔
      ∃ regions tail, Divides document start stop regions tail ∧
        updated.toList = filledText content regions tail := by
  rw [splice_eq_ok_iff]
  constructor
  · rintro ⟨regions, tail, any, divided, whole, shown⟩
    have divides : Divides document start stop regions tail := ⟨any, divided, whole⟩
    refine ⟨regions, tail, divides, Text.lines_injective ?_⟩
    rw [shown, divides.lines_filledText]
  · rintro ⟨regions, tail, divides, shown⟩
    refine ⟨regions, tail, divides.any, divides.divided, divides.whole, ?_⟩
    rw [shown, divides.lines_filledText]

/-- Whether there is a start marker is looked at first. -/
theorem splice_cases (document start stop content : String) :
    (∀ line ∈ lines document.toList, trim line ≠ start.toList) ∧
        splice document start stop content = .error (.missingStart start) ∨
      (∃ line ∈ lines document.toList, trim line = start.toList) ∧
        ((∃ updated, splice document start stop content = .ok updated) ∨
          splice document start stop content = .error (.missingEnd stop)) := by
  unfold splice
  dsimp only
  split
  · rename_i opens
    refine .inr ⟨by simpa [lines] using opens, ?_⟩
    split
    · exact .inl ⟨_, rfl⟩
    · exact .inr rfl
  · rename_i missing
    exact .inl ⟨by simpa [lines] using missing, rfl⟩

theorem splice_eq_missingStart_iff :
    splice document start stop content = .error (.missingStart start) ↔
      ∀ line ∈ lines document.toList, trim line ≠ start.toList := by
  rcases splice_cases document start stop content with
    ⟨missing, done⟩ | ⟨⟨line, member, opens⟩, ⟨updated, done⟩ | done⟩
  · exact iff_of_true done missing
  · rw [done]
    exact iff_of_false nofun fun missing => missing line member opens
  · rw [done]
    exact iff_of_false nofun fun missing => missing line member opens

theorem splice_eq_missingEnd_iff :
    splice document start stop content = .error (.missingEnd stop) ↔
      (∃ line ∈ lines document.toList, trim line = start.toList) ∧
        ¬ ∃ regions tail, Divides document start stop regions tail := by
  rcases splice_cases document start stop content with
    ⟨missing, done⟩ | ⟨found, ⟨updated, done⟩ | done⟩
  · rw [done]
    refine iff_of_false nofun ?_
    rintro ⟨⟨line, member, opens⟩, _⟩
    exact missing line member opens
  · rw [done]
    refine iff_of_false nofun ?_
    rintro ⟨_, undivided⟩
    obtain ⟨regions, tail, divides, _⟩ := splice_eq_ok_iff_divides.1 done
    exact undivided ⟨regions, tail, divides⟩
  · refine iff_of_true done ⟨found, ?_⟩
    rintro ⟨regions, tail, divides⟩
    have filled : splice document start stop content =
        .ok (String.ofList (filledText content regions tail)) :=
      splice_eq_ok_iff_divides.2 ⟨regions, tail, divides, String.toList_ofList⟩
    rw [done] at filled
    cases filled

/-- **The outcome of an update**, by the one division of the document into regions. -/
theorem splice_outcome (document start stop content : String) :
    (∀ updated, splice document start stop content = .ok updated ↔
      ∃ regions tail, Divides document start stop regions tail ∧
        updated.toList = filledText content regions tail) ∧
    (∀ regions tail regions' tail', Divides document start stop regions tail →
      Divides document start stop regions' tail' → regions = regions' ∧ tail = tail') ∧
    (splice document start stop content = .error (.missingStart start) ↔
      ∀ line ∈ lines document.toList, trim line ≠ start.toList) ∧
    (splice document start stop content = .error (.missingEnd stop) ↔
      (∃ line ∈ lines document.toList, trim line = start.toList) ∧
        ¬ ∃ regions tail, Divides document start stop regions tail) := by
  refine ⟨fun _ => splice_eq_ok_iff_divides, ?_, splice_eq_missingStart_iff,
    splice_eq_missingEnd_iff⟩
  intro regions tail regions' tail' divides divides'
  exact divides.divided.unique divides'.divided (divides.whole.symm.trans divides'.whole)

/-- An end marker outside, a start marker inside, and marker lines with white space around them. -/
theorem splice_outcome_strayMarkers :
    let document := "end\n start\nstart\nold\nend \nmid\nend\nstart\nend\n"
    let regions : List Region :=
      [⟨["end".toList], " start".toList, ["start".toList, "old".toList], "end ".toList⟩,
        ⟨["mid".toList, "end".toList], "start".toList, [], "end".toList⟩]
    Divides document "start" "end" regions [[]] ∧
      splice document "start" "end" "new\n\n" =
        .ok "end\n start\nnew\nend \nmid\nend\nstart\nnew\nend\n" ∧
      ∀ others tail, Divides document "start" "end" others tail → regions = others ∧ [[]] = tail := by
  intro document regions
  have divides : Divides document "start" "end" regions [[]] := by
    refine ⟨by decide, ⟨?_, by decide⟩, by decide⟩
    intro region member
    rcases List.mem_cons.1 member with rfl | member
    · exact ⟨by decide, by decide, by decide, by decide⟩
    · obtain rfl := List.mem_singleton.1 member
      exact ⟨by decide, by decide, by decide, by decide⟩
  obtain ⟨filled, unique, _⟩ := splice_outcome document "start" "end" "new\n\n"
  refine ⟨divides, (filled _).2 ⟨regions, [[]], divides, by decide⟩, ?_⟩
  exact fun others tail => unique regions [[]] others tail divides

end InputDocs
