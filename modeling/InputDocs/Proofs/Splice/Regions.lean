import InputDocs.Proofs.Text.Lines
import InputDocs.Splice

/-!
# Proofs.Splice.Regions -- the regions of a document

The scan of `Splice.fill` carries one bit, whether a region is open. Read as a whole, a document
that can be filled is a list of regions, each with the lines before it, and a tail
(`Splice.Divided`); filling puts the new content between the marker lines of every region and
leaves everything else (`fill_assemble`, `exists_divided`). So one update is described
without the scan, by the lines of the document before and after it (`splice_eq_ok_iff`).

The result of an update is a document again, and its next update meets the new content. If no
line of the content is the end marker, the regions are found where they were and a second update
with the same content changes nothing. If some line is, the first of them closes its region early,
and what stood after it stays in the document: every region leaves at least one line more than
there was (`length_lt_of_fill`). So a second update changes nothing exactly if the content has no
end marker of its own (`splice_again_iff`).
-/

namespace InputDocs

set_option autoImplicit false

open Text (lines)
open Unicode (trim)

namespace Splice

/-- The lines that content leaves in a region: those of the content, less the line feeds at its
end. -/
def bodyLines (content : String) : List (List Char) :=
  lines (Unicode.dropEnd (· = '\n') content.toList)

/-- Only blank lines are lost. -/
theorem mem_bodyLines_iff {content : String} {line : List Char} (filled : line ≠ []) :
    line ∈ bodyLines content ↔ line ∈ lines content.toList := by
  obtain ⟨tail, whole, feeds⟩ :=
    Unicode.exists_append_dropEnd (fun c => decide (c = '\n')) content.toList
  obtain ⟨blank, empty, more⟩ := Text.exists_lines_append_feeds
    (fun c member => of_decide_eq_true (feeds c member)) (Unicode.dropEnd (· = '\n') content.toList)
  rw [← whole] at more
  rw [bodyLines, more, List.mem_append, or_iff_left]
  exact fun member => filled (empty line member)

/-! ## Regions -/

/-- A region with the lines before it. -/
structure Region where
  before : List (List Char)
  opening : List Char
  inner : List (List Char)
  closing : List Char

/-- The lines of a region, those before it included. -/
def Region.lines (region : Region) : List (List Char) :=
  region.before ++ region.opening :: (region.inner ++ [region.closing])

/-- The region with other lines between its marker lines. -/
def Region.withInner (inner : List (List Char)) (region : Region) : Region := { region with inner }

/-- The region is one that the scan finds: no line before it opens one, and the first line that
closes it does. -/
structure Region.Between (start stop : List Char) (region : Region) : Prop where
  before : ∀ line ∈ region.before, trim line ≠ start
  opening : trim region.opening = start
  inner : ∀ line ∈ region.inner, trim line ≠ stop
  closing : trim region.closing = stop

/-- The lines of regions one after the other and of what follows them. -/
def assemble (regions : List Region) (tail : List (List Char)) : List (List Char) :=
  regions.flatMap Region.lines ++ tail

/-- The regions are those that the scan finds, and no region opens after them. -/
structure Divided (start stop : List Char) (regions : List Region) (tail : List (List Char)) :
    Prop where
  each : ∀ region ∈ regions, region.Between start stop
  tail : ∀ line ∈ tail, trim line ≠ start

@[simp] theorem assemble_nil (tail : List (List Char)) : assemble [] tail = tail := rfl

theorem assemble_cons (region : Region) (regions : List Region) (tail : List (List Char)) :
    assemble (region :: regions) tail =
      region.before ++ region.opening ::
        (region.inner ++ region.closing :: assemble regions tail) := by
  simp [assemble, Region.lines]

variable {start stop body : List Char} {regions : List Region} {tail : List (List Char)}

theorem divided_cons {region : Region} :
    Divided start stop (region :: regions) tail ↔
      region.Between start stop ∧ Divided start stop regions tail := by
  constructor
  · rintro ⟨each, last⟩
    obtain ⟨first, others⟩ := List.forall_mem_cons.1 each
    exact ⟨first, others, last⟩
  · rintro ⟨first, others, last⟩
    exact ⟨List.forall_mem_cons.2 ⟨first, others⟩, last⟩

/-- Other lines keep the division if none of them closes a region. -/
theorem Divided.withInner (divided : Divided start stop regions tail) {inner : List (List Char)}
    (unclosed : ∀ line ∈ inner, trim line ≠ stop) :
    Divided start stop (regions.map (Region.withInner inner)) tail := by
  refine ⟨?_, divided.tail⟩
  intro region member
  obtain ⟨old, among, rfl⟩ := List.mem_map.1 member
  obtain ⟨before, opening, _, closing⟩ := divided.each old among
  exact ⟨before, opening, unclosed, closing⟩

/-! ## Filling regions -/

/-- Lines that open no region stay. -/
theorem fill_outside {before : List (List Char)} (closed : ∀ line ∈ before, trim line ≠ start)
    (rest : List (List Char)) :
    fill start stop body false (before ++ rest) =
      (fill start stop body false rest).map (before ++ ·) := by
  induction before with
  | nil => simp
  | cons line others ih =>
      obtain ⟨here, later⟩ := List.forall_mem_cons.1 closed
      rw [List.cons_append, fill, if_neg Bool.false_ne_true, if_neg here, ih later, Option.map_map]
      rfl

/-- What stands in an open region is dropped up to the line that closes it. -/
theorem fill_inside {inner : List (List Char)} {closing : List Char}
    (unclosed : ∀ line ∈ inner, trim line ≠ stop) (closes : trim closing = stop)
    (rest : List (List Char)) :
    fill start stop body true (inner ++ closing :: rest) =
      (fill start stop body false rest).map (closing :: ·) := by
  induction inner with
  | nil => rw [List.nil_append, fill, if_pos rfl, if_pos closes]
  | cons line others ih =>
      obtain ⟨here, later⟩ := List.forall_mem_cons.1 unclosed
      rw [List.cons_append, fill, if_pos rfl, if_neg here, ih later]

/-- A line that opens a region is followed by the content. -/
theorem fill_opening {opening : List Char} (opens : trim opening = start)
    (rest : List (List Char)) :
    fill start stop body false (opening :: rest) =
      (fill start stop body true rest).map fun others => opening :: body :: others := by
  rw [fill, if_neg Bool.false_ne_true, if_pos opens]

/-- **Filling a divided document** puts the content between the marker lines of every region. -/
theorem fill_assemble (divided : Divided start stop regions tail) :
    fill start stop body false (assemble regions tail) =
      some (assemble (regions.map (Region.withInner [body])) tail) := by
  induction regions with
  | nil => simpa [fill] using fill_outside divided.tail []
  | cons region others ih =>
      obtain ⟨⟨before, opening, inner, closing⟩, later⟩ := divided_cons.1 divided
      rw [assemble_cons, fill_outside before, fill_opening opening, fill_inside inner closing,
        ih later, List.map_cons, assemble_cons]
      rfl

/-- A document that can be filled is divided; one that can be filled with a region open divides
after the line that closes it. -/
theorem exists_divided {document : List (List Char)} :
    ((fill start stop body false document).isSome = true →
      ∃ regions tail, Divided start stop regions tail ∧ document = assemble regions tail) ∧
    ((fill start stop body true document).isSome = true →
      ∃ inner closing regions tail, (∀ line ∈ inner, trim line ≠ stop) ∧ trim closing = stop ∧
        Divided start stop regions tail ∧ document = inner ++ closing :: assemble regions tail) := by
  -- The two halves are shown together: a marker line turns one into the other.
  induction document with
  | nil =>
      refine ⟨fun _ => ⟨[], [], ⟨by simp, by simp⟩, rfl⟩, ?_⟩
      intro filled
      cases filled
  | cons line rest ih =>
      obtain ⟨outside, inside⟩ := ih
      constructor
      · intro filled
        rw [fill, if_neg Bool.false_ne_true] at filled
        split at filled
        · rename_i opens
          obtain ⟨inner, closing, regions, tail, unclosed, closes, divided, rfl⟩ :=
            inside (by simpa using filled)
          refine ⟨⟨[], line, inner, closing⟩ :: regions, tail, divided_cons.2 ⟨?_, divided⟩, ?_⟩
          · exact ⟨by simp, opens, unclosed, closes⟩
          · rw [assemble_cons]
            rfl
        · rename_i closed
          obtain ⟨regions, tail, divided, rfl⟩ := outside (by simpa using filled)
          -- The line goes before the first region, or into the tail if there is none.
          cases regions with
          | nil =>
              refine ⟨[], line :: tail, ⟨by simp, ?_⟩, rfl⟩
              exact List.forall_mem_cons.2 ⟨closed, divided.tail⟩
          | cons region others =>
              obtain ⟨⟨before, opening, inner, closing⟩, later⟩ := divided_cons.1 divided
              refine ⟨{ region with before := line :: region.before } :: others, tail,
                divided_cons.2 ⟨?_, later⟩, ?_⟩
              · exact ⟨List.forall_mem_cons.2 ⟨closed, before⟩, opening, inner, closing⟩
              · rw [assemble_cons, assemble_cons]
                rfl
      · intro filled
        rw [fill, if_pos rfl] at filled
        split at filled
        · rename_i closes
          obtain ⟨regions, tail, divided, rfl⟩ := outside (by simpa using filled)
          exact ⟨[], line, regions, tail, by simp, closes, divided, rfl⟩
        · rename_i unclosed
          obtain ⟨inner, closing, regions, tail, others, closes, divided, rfl⟩ := inside filled
          exact ⟨line :: inner, closing, regions, tail, List.forall_mem_cons.2 ⟨unclosed, others⟩,
            closes, divided, rfl⟩

/-! ## One update -/

/-- The lines of regions that are filled with one text. -/
theorem flatMap_lines_assemble (single : ∀ line ∈ assemble regions tail, '\n' ∉ line) :
    (assemble (regions.map (Region.withInner [body])) tail).flatMap lines =
      assemble (regions.map (Region.withInner (lines body))) tail := by
  induction regions with
  | nil => exact Text.flatMap_lines_of_notMem single
  | cons region others ih =>
      rw [assemble_cons] at single
      obtain ⟨before, single⟩ := List.forall_mem_append.1 single
      obtain ⟨opening, single⟩ := List.forall_mem_cons.1 single
      obtain ⟨_, single⟩ := List.forall_mem_append.1 single
      obtain ⟨closing, single⟩ := List.forall_mem_cons.1 single
      simp only [List.map_cons, assemble_cons, Region.withInner, List.flatMap_append,
        List.flatMap_cons, Text.flatMap_lines_of_notMem before, Text.lines_of_notMem opening,
        Text.lines_of_notMem closing, List.singleton_append]
      rw [ih single]

/-- Filling does not lose the first line. -/
theorem fill_ne_nil {document filled : List (List Char)} (any : document ≠ [])
    (done : fill start stop body false document = some filled) : filled ≠ [] := by
  obtain ⟨line, rest, rfl⟩ := List.exists_cons_of_ne_nil any
  rw [fill, if_neg Bool.false_ne_true] at done
  split at done
  · obtain ⟨others, _, rfl⟩ := Option.map_eq_some_iff.1 done
    exact List.cons_ne_nil _ _
  · obtain ⟨others, _, rfl⟩ := Option.map_eq_some_iff.1 done
    exact List.cons_ne_nil _ _

end Splice

open Splice

variable {document start stop content updated : String}

/-- An update in terms of lines, by the scan. -/
theorem splice_eq_ok_iff_fill :
    splice document start stop content = .ok updated ↔
      (∃ line ∈ lines document.toList, trim line = start.toList) ∧
        ∃ filled, fill start.toList stop.toList (Unicode.dropEnd (· = '\n') content.toList) false
            (lines document.toList) = some filled ∧
          lines updated.toList = filled.flatMap lines := by
  have opens : (lines document.toList).any (fun line => trim line = start.toList) = true ↔
      ∃ line ∈ lines document.toList, trim line = start.toList := by
    simp
  unfold splice
  change (if (lines document.toList).any (fun line => trim line = start.toList) = true then _
    else _) = _ ↔ _
  rw [← opens]
  split
  · rename_i found
    simp only [found, true_and]
    constructor
    · intro done
      split at done
      · rename_i filled same
        cases done
        refine ⟨filled, same, ?_⟩
        rw [String.toList_ofList,
          Text.lines_intercalate (fill_ne_nil (Text.lines_ne_nil _) same)]
      · cases done
    · rintro ⟨filled, same, shown⟩
      have whole : lines updated.toList = lines (['\n'].intercalate filled) := by
        rw [shown, Text.lines_intercalate (fill_ne_nil (Text.lines_ne_nil _) same)]
      rw [lines] at same
      rw [same]
      simp only [← Text.lines_injective whole, String.ofList_toList]
  · rename_i missing
    constructor
    · intro done
      cases done
    · rintro ⟨found, _⟩
      exact absurd found missing

/-- **One update.** It puts the content between the marker lines of every region of a document
that is divided and has a region, and keeps all other lines. -/
theorem splice_eq_ok_iff :
    splice document start stop content = .ok updated ↔
      ∃ regions tail, regions ≠ [] ∧ Divided start.toList stop.toList regions tail ∧
        lines document.toList = assemble regions tail ∧
          lines updated.toList =
            assemble (regions.map (Region.withInner (bodyLines content))) tail := by
  rw [splice_eq_ok_iff_fill]
  constructor
  · rintro ⟨⟨line, member, opens⟩, filled, done, shown⟩
    obtain ⟨regions, tail, divided, same⟩ := exists_divided.1 (by rw [done, Option.isSome_some])
    refine ⟨regions, tail, ?_, divided, same, ?_⟩
    · rintro rfl
      rw [same] at member
      exact divided.tail line member opens
    · rw [same, fill_assemble divided, Option.some_inj] at done
      rw [shown, ← done, bodyLines, flatMap_lines_assemble]
      intro line member
      exact Text.feed_notMem_of_mem_lines (same ▸ member)
  · rintro ⟨regions, tail, any, divided, same, shown⟩
    refine ⟨?_, _, same ▸ fill_assemble divided, ?_⟩
    · obtain ⟨region, others, rfl⟩ := List.exists_cons_of_ne_nil any
      refine ⟨region.opening, ?_, (divided_cons.1 divided).1.opening⟩
      rw [same, assemble_cons]
      simp
    · rw [shown, bodyLines, flatMap_lines_assemble]
      intro line member
      exact Text.feed_notMem_of_mem_lines (same ▸ member)

/-! ## Two updates -/

namespace Splice

/-- How many lines a filled document has, the content counted with all of its lines. -/
def lineCount (filled : List (List Char)) : Nat := (filled.flatMap lines).length

theorem lineCount_cons (line : List Char) (rest : List (List Char)) :
    lineCount (line :: rest) = (lines line).length + lineCount rest := by
  rw [lineCount, List.flatMap_cons, List.length_append, lineCount]

theorem lineCount_append (first second : List (List Char)) :
    lineCount (first ++ second) = lineCount first + lineCount second := by
  rw [lineCount, List.flatMap_append, List.length_append, lineCount, lineCount]

theorem length_lines_pos (text : List Char) : 0 < (lines text).length :=
  List.length_pos_iff.2 (Text.lines_ne_nil text)

theorem length_le_lineCount (document : List (List Char)) :
    document.length ≤ lineCount document := by
  induction document with
  | nil => exact Nat.zero_le _
  | cons line rest ih =>
      have first := length_lines_pos line
      rw [lineCount_cons, List.length_cons]
      omega

variable {start stop body closing : List Char} {rest : List (List Char)}

/-- Old content that is left over up to a closing line is not lost: outside a region it stays, and
if it opens a region it makes room for the content, which is as long. -/
theorem exists_fill_of_leftover (differ : start ≠ stop) (closes : trim closing = stop)
    {left : List (List Char)} (short : left.length ≤ (lines body).length) :
    (∀ filled, fill start stop body false (left ++ closing :: rest) = some filled →
      ∃ others, fill start stop body false rest = some others ∧
        left.length + 1 + lineCount others ≤ lineCount filled) ∧
    ∀ filled, fill start stop body true (left ++ closing :: rest) = some filled →
      ∃ others, fill start stop body false rest = some others ∧
        1 + lineCount others ≤ lineCount filled := by
  -- With a region open the lines that are left are dropped, so only the closing line counts.
  induction left with
  | nil =>
      have first := length_lines_pos closing
      constructor
      · intro filled done
        rw [List.nil_append, fill, if_neg Bool.false_ne_true, if_neg (closes ▸ Ne.symm differ),
          Option.map_eq_some_iff] at done
        obtain ⟨others, done, rfl⟩ := done
        refine ⟨others, done, ?_⟩
        rw [lineCount_cons, List.length_nil]
        omega
      · intro filled done
        rw [List.nil_append, fill, if_pos rfl, if_pos closes, Option.map_eq_some_iff] at done
        obtain ⟨others, done, rfl⟩ := done
        refine ⟨others, done, ?_⟩
        rw [lineCount_cons]
        omega
  | cons line left ih =>
      have first := length_lines_pos line
      rw [List.length_cons] at short
      obtain ⟨outside, inside⟩ := ih (by omega)
      constructor
      · intro filled done
        rw [List.cons_append, fill, if_neg Bool.false_ne_true] at done
        split at done
        · obtain ⟨later, found, rfl⟩ := Option.map_eq_some_iff.1 done
          obtain ⟨others, done, grows⟩ := inside later found
          refine ⟨others, done, ?_⟩
          rw [lineCount_cons, lineCount_cons, List.length_cons]
          omega
        · obtain ⟨later, found, rfl⟩ := Option.map_eq_some_iff.1 done
          obtain ⟨others, done, grows⟩ := outside later found
          refine ⟨others, done, ?_⟩
          rw [lineCount_cons, List.length_cons]
          omega
      · intro filled done
        rw [List.cons_append, fill, if_pos rfl] at done
        split at done
        · obtain ⟨later, found, rfl⟩ := Option.map_eq_some_iff.1 done
          obtain ⟨others, done, grows⟩ := outside later found
          refine ⟨others, done, ?_⟩
          rw [lineCount_cons]
          omega
        · exact inside filled done

/-- Old content with a line that closes its region leaves the region's own closing line behind. -/
theorem exists_fill_of_closing_mem (differ : start ≠ stop) (closes : trim closing = stop)
    {inner filled : List (List Char)} (short : inner.length ≤ (lines body).length)
    (early : ∃ line ∈ inner, trim line = stop)
    (done : fill start stop body true (inner ++ closing :: rest) = some filled) :
    ∃ others, fill start stop body false rest = some others ∧
      2 + lineCount others ≤ lineCount filled := by
  induction inner with
  | nil =>
      obtain ⟨line, member, _⟩ := early
      cases member
  | cons line left ih =>
      have first := length_lines_pos line
      rw [List.length_cons] at short
      rw [List.cons_append, fill, if_pos rfl] at done
      split at done
      · obtain ⟨later, found, rfl⟩ := Option.map_eq_some_iff.1 done
        obtain ⟨others, done, grows⟩ :=
          (exists_fill_of_leftover differ closes (by omega)).1 later found
        refine ⟨others, done, ?_⟩
        rw [lineCount_cons]
        omega
      · rename_i unclosed
        obtain ⟨found, member, stops⟩ := early
        have among : found ∈ left :=
          (List.mem_cons.1 member).resolve_left fun same => unclosed (same ▸ stops)
        exact ih (by omega) ⟨found, among, stops⟩ done

/-- If a line of the content is the end marker, filling regions that hold the content already
makes the document longer by a line for each region. -/
theorem length_lt_of_fill (differ : start ≠ stop) (early : ∃ line ∈ lines body, trim line = stop)
    {regions : List Region} {tail filled : List (List Char)}
    (divided : Divided start stop regions tail)
    (done : fill start stop body false
      (assemble (regions.map (Region.withInner (lines body))) tail) = some filled) :
    (assemble (regions.map (Region.withInner (lines body))) tail).length + regions.length ≤
      lineCount filled := by
  induction regions generalizing filled with
  | nil =>
      rw [List.map_nil, fill_assemble ⟨by simp, divided.tail⟩, Option.some_inj] at done
      subst done
      exact length_le_lineCount _
  | cons region others ih =>
      obtain ⟨⟨before, opening, _, closing⟩, later⟩ := divided_cons.1 divided
      rw [List.map_cons, assemble_cons] at done ⊢
      simp only [Region.withInner] at done ⊢
      rw [fill_outside before, fill_opening opening, Option.map_map, Option.map_eq_some_iff]
        at done
      obtain ⟨inside, found, rfl⟩ := done
      obtain ⟨following, found, grows⟩ :=
        exists_fill_of_closing_mem differ closing (Nat.le_refl _) early found
      have least := ih later found
      have kept := length_le_lineCount region.before
      have first := length_lines_pos region.opening
      simp only [Function.comp_apply, lineCount_append, lineCount_cons, List.length_append,
        List.length_cons] at least ⊢
      omega

end Splice

/-- **Two updates.** A second update with the same content changes nothing exactly if no line that
the content leaves is the end marker. -/
theorem splice_again_iff (differ : start ≠ stop)
    (done : splice document start stop content = .ok updated) :
    splice updated start stop content = .ok updated ↔
      ∀ line ∈ bodyLines content, trim line ≠ stop.toList := by
  obtain ⟨regions, tail, any, divided, _, shown⟩ := splice_eq_ok_iff.1 done
  constructor
  · intro again line member stops
    obtain ⟨_, filled, refilled, same⟩ := splice_eq_ok_iff_fill.1 again
    rw [shown] at refilled
    have grows := length_lt_of_fill (fun same => differ (String.toList_injective same))
      ⟨line, member, stops⟩ divided refilled
    have count : lineCount filled =
        (assemble (regions.map (Region.withInner (bodyLines content))) tail).length := by
      rw [lineCount, ← same, shown]
    have some_region := List.length_pos_iff.2 any
    rw [bodyLines] at count
    omega
  · intro unclosed
    refine splice_eq_ok_iff.2 ⟨_, tail, ?_, divided.withInner unclosed, shown, ?_⟩
    · rwa [Ne, List.map_eq_nil_iff]
    · rw [shown, List.map_map]
      rfl

end InputDocs
