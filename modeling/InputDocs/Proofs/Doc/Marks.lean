import InputDocs.Proofs.Doc.LineEnds
import InputDocs.Proofs.Doc.Normal

/-!
# Proofs.Doc.Marks -- marks are no part of the documentation

The same lines can be written as `///` lines, as a block with a star before each line, and as a
description without marks. Whatever the lines are, also if they look like marks themselves, the
documentation is that of the lines alone (`Doc.marks_agree`). Only the block adds lines of its own,
a first and a last one, and they are blank (`Doc.ofLines_blank_append`,
`Doc.ofLines_append_blank`).

Where a line begins and ends between the marks does not matter either, because every line is
trimmed. So it is the same to take the marks off in steps: to drop the blanks and tabs after a mark
(`Doc.ofComment_lines_eq`), to join the lines of a block to a text, drop the line feeds at its ends
and split it again (`Doc.ofComment_block_eq`), and to count a carriage return to the end of a line
and an empty last line as none (`Doc.ofDescription_eq`).
-/

namespace InputDocs

set_option autoImplicit false

open Text (lines)
open Unicode (isBlank trim dropEnd)

/-! ## Trimming -/

namespace Unicode

theorem dropEnd_cons {p : Char → Bool} {c : Char} (kept : p c = false) (text : List Char) :
    dropEnd p (c :: text) = c :: dropEnd p text := by
  rw [dropEnd, List.reverse_cons, List.dropWhile_append]
  split
  · rename_i nothing
    rw [dropEnd, List.isEmpty_iff.1 nothing]
    simp [kept]
  · rw [List.reverse_append]
    rfl

theorem trim_append_blank {tail : List Char} (blank : ∀ c ∈ tail, isBlank c = true)
    (text : List Char) : trim (text ++ tail) = trim text := by
  induction tail generalizing text with
  | nil => rw [List.append_nil]
  | cons c rest ih =>
      obtain ⟨here, later⟩ := List.forall_mem_cons.1 blank
      rw [List.append_cons, ih later, trim_concat here]

theorem trim_dropEnd (text : List Char) : trim (dropEnd isBlank text) = trim text := by
  obtain ⟨tail, whole, blank⟩ := exists_append_dropEnd isBlank text
  conv => rhs; rw [whole]
  exact (trim_append_blank blank _).symm

/-- It does not matter which white space is dropped in front before the rest is. -/
theorem trim_dropWhile {p : Char → Bool} (blank : ∀ c, p c = true → isBlank c = true)
    (text : List Char) : trim (text.dropWhile p) = trim text := by
  induction text with
  | nil => rfl
  | cons c rest ih =>
      by_cases dropped : p c = true
      · rw [List.dropWhile_cons_of_pos dropped, ih, trim_cons (blank c dropped)]
      · rw [List.dropWhile_cons_of_neg dropped]

end Unicode

/-! ## Blank lines at the ends -/

namespace Doc

theorem dropBlankEnds_blank_append {blank : List String} (empty : ∀ line ∈ blank, line = "")
    (content : List String) : dropBlankEnds (blank ++ content) = dropBlankEnds content := by
  have dropped : (blank ++ content).dropWhile (· = "") = content.dropWhile (· = "") :=
    List.dropWhile_append_of_pos fun line member => decide_eq_true (empty line member)
  rw [dropBlankEnds, dropped, dropBlankEnds]

theorem dropBlankEnds_append_blank {blank : List String} (empty : ∀ line ∈ blank, line = "")
    (content : List String) : dropBlankEnds (content ++ blank) = dropBlankEnds content := by
  have all : ∀ line ∈ blank, decide (line = "") = true := fun line member =>
    decide_eq_true (empty line member)
  unfold dropBlankEnds
  rw [List.dropWhile_append]
  split
  · -- There is no content, so what is blank is dropped from the front.
    rename_i nothing
    rw [List.isEmpty_iff.1 nothing, List.dropWhile_eq_nil_iff.2 all]
  · rw [List.reverse_append, List.dropWhile_append_of_pos]
    intro line member
    exact all line (List.mem_reverse.1 member)

variable [PatternEngine] {blank : List (List Char)}

/-- Blank lines are empty content lines and no directives. -/
theorem content_of_blank (empty : ∀ line ∈ blank, trim line = []) :
    (∀ line ∈ ((blank.map trim).filter fun line => (directive? line).isNone).map String.ofList,
      line = "") ∧ (blank.map trim).filterMap directive? = [] := by
  have all : ∀ line ∈ blank.map trim, line = [] := by simpa using empty
  constructor
  · intro line member
    obtain ⟨chars, kept, rfl⟩ := List.mem_map.1 member
    rw [all chars (List.mem_filter.1 kept).1]
  · apply List.filterMap_eq_nil_iff.2
    intro line member
    rw [all line member]
    rfl

theorem ofLines_blank_append (empty : ∀ line ∈ blank, trim line = []) (text : List (List Char)) :
    ofLines (blank ++ text) = ofLines text := by
  obtain ⟨content, directives⟩ := content_of_blank empty
  simp only [ofLines, List.map_append, List.filter_append, List.filterMap_append, directives,
    List.nil_append, dropBlankEnds_blank_append content]

theorem ofLines_append_blank (empty : ∀ line ∈ blank, trim line = []) (text : List (List Char)) :
    ofLines (text ++ blank) = ofLines text := by
  obtain ⟨content, directives⟩ := content_of_blank empty
  simp only [ofLines, List.map_append, List.filter_append, List.filterMap_append, directives,
    List.append_nil, dropBlankEnds_append_blank content]

/-! ## The same lines with any marks -/

/-- The text of a block comment with a star before each line. -/
def starred (text : List String) : String :=
  "/**\n" ++ String.join (text.map fun line => " * " ++ line ++ "\n") ++ " */"

omit [PatternEngine] in
/-- A star before a line, and the blanks around it, are no part of the line. -/
theorem trim_blockLine_starred (line : List Char) :
    trim (blockLine (' ' :: '*' :: ' ' :: line)) = trim line := by
  have trimmed : trim (' ' :: '*' :: ' ' :: line) = '*' :: dropEnd isBlank (' ' :: line) := by
    rw [Unicode.trim_cons (by decide), trim, List.dropWhile_cons_of_neg (by decide),
      Unicode.dropEnd_cons (by decide)]
  have bare : Text.stripStart ['*'] ('*' :: dropEnd isBlank (' ' :: line)) =
      dropEnd isBlank (' ' :: line) := Text.stripStart_append ['*'] _
  rw [blockLine, trimmed, bare, Unicode.trim_dropEnd, Unicode.trim_cons (by decide)]

omit [PatternEngine] in
/-- A line ended by a line feed for each of the lines, and then a blank. -/
theorem lines_flatMap_starred {text : List String} (single : ∀ line ∈ text, '\n' ∉ line.toList) :
    Text.lines ((text.flatMap fun line => ' ' :: '*' :: ' ' :: (line.toList ++ ['\n'])) ++ [' ']) =
      (text.map fun line => ' ' :: '*' :: ' ' :: line.toList) ++ [[' ']] := by
  induction text with
  | nil => rfl
  | cons line rest ih =>
      obtain ⟨here, later⟩ := List.forall_mem_cons.1 single
      have marked : '\n' ∉ ' ' :: '*' :: ' ' :: line.toList := by simpa using here
      have first := Text.lines_append_feed (' ' :: '*' :: ' ' :: line.toList)
        ((rest.flatMap fun line => ' ' :: '*' :: ' ' :: (line.toList ++ ['\n'])) ++ [' '])
      rw [Text.lines_of_notMem marked, ih later] at first
      simpa using first

omit [PatternEngine] in
/-- A block with stars has an empty line before the lines, and after them one with the blank that
stands before the closing mark. -/
theorem blockLines_starred {text : List String} (single : ∀ line ∈ text, '\n' ∉ line.toList) :
    blockLines (starred text) =
      [[]] ++ ((text.map fun line => ' ' :: '*' :: ' ' :: line.toList) ++ [[' ']]) := by
  have spelled : (starred text).toList = "/**".toList ++
      ('\n' :: ((text.flatMap fun line => ' ' :: '*' :: ' ' :: (line.toList ++ ['\n'])) ++ [' ']) ++
        "*/".toList) := by
    simp [starred, String.toList_join, List.flatMap_map]
  rw [blockLines_of_toList spelled, Text.lines_feed, lines_flatMap_starred single]
  rfl

/-- **Marks are no part of the documentation.** The same lines give the same documentation as a
comment of `///` lines, as a block with stars and as a description: that of the lines alone. -/
theorem marks_agree {text : List String} (single : ∀ line ∈ text, '\n' ∉ line.toList) :
    ofComment (.lines (text.map fun line => "/// " ++ line)) = ofLines (text.map String.toList) ∧
      ofComment (.block (starred text)) = ofLines (text.map String.toList) ∧
        ofDescription ("\n".intercalate text) = ofLines (text.map String.toList) := by
  refine ⟨?_, ?_, ?_⟩
  · apply ofLines_congr
    rw [List.map_map, List.map_map, List.map_map]
    refine List.map_congr_left fun line _ => ?_
    have spelled : ("/// " ++ line).toList = "///".toList ++ ' ' :: line.toList := by simp
    simp only [Function.comp_apply, spelled, Text.stripStart_append]
    exact Unicode.trim_cons (by decide) _
  · have trimmed : ((text.map fun line => ' ' :: '*' :: ' ' :: line.toList).map blockLine).map trim
        = (text.map String.toList).map trim := by
      rw [List.map_map, List.map_map, List.map_map]
      exact List.map_congr_left fun line _ => trim_blockLine_starred line.toList
    rw [ofComment_block, blockLines_starred single, List.map_append, List.map_append,
      ofLines_blank_append, ofLines_append_blank, ofLines_congr trimmed]
    · decide
    · decide
  · have joined : ("\n".intercalate text).toList = ['\n'].intercalate (text.map String.toList) := by
      simp [String.toList_intercalate]
    rw [ofDescription, joined, ← Text.lines]
    by_cases nothing : text = []
    · -- Nothing is joined to one empty line.
      subst nothing
      rfl
    · rw [Text.lines_intercalate_of_notMem (mt List.map_eq_nil_iff.1 nothing)
        (List.forall_mem_map.2 single)]

omit [PatternEngine] in
/-- Lines that look like marks, and white space at their ends that is more than blanks. -/
theorem marks_agree_markLike :
    let _ : PatternEngine := .lenient
    let doc : Doc := ⟨["* a", "", "/// */"], [⟨"since", "1", .since "1"⟩]⟩
    ofComment (.lines ["/// * a", "/// ", "/// /// */\r", "/// @since 1 \u2003"]) = doc ∧
      ofComment (.block "/**\n * * a\n * \n * /// */\r\n * @since 1 \u2003\n */") = doc ∧
        ofDescription "* a\n\n/// */\r\n@since 1 \u2003" = doc := by
  intro _ doc
  let text := ["* a", "", "/// */\r", "@since 1 \u2003"]
  have single : ∀ line ∈ text, '\n' ∉ line.toList := by decide
  have read : ofLines (text.map String.toList) = doc := by decide +kernel
  rw [← read]
  exact marks_agree single

/-! ## Marks taken off in steps -/

/-- Whether the character is a blank or a tab. -/
def isSpacing (c : Char) : Bool := c = ' ' || c = '\t'

/-- A line without the mark of a line comment and the spacing after the mark. -/
def bareLine (line : List Char) : List Char :=
  (Text.stripStart "///".toList line).dropWhile isSpacing

/-- A line of a block, trimmed, without its star and the spacing after the star. -/
def bareBlockLine (line : List Char) : List Char :=
  match trim line with
  | '*' :: rest => rest.dropWhile isSpacing
  | other => other

/-- The text of a block without marks and without line feeds at its ends. -/
def bareBlock (text : String) : List Char :=
  dropEnd (· = '\n')
    ((['\n'].intercalate ((blockLines text).map bareBlockLine)).dropWhile (· = '\n'))

/-- The lines that are ended in a text: each by a line feed, to which a carriage return before it
belongs, and the last one by the end of the text unless it is empty. -/
def endedLines (text : List Char) : List (List Char) :=
  (Text.lines text).dropLast.map (Text.stripEnd ['\r']) ++
    if Text.lastLine text = [] then [] else [Text.lastLine text]

omit [PatternEngine] in
theorem trim_dropSpacing (text : List Char) : trim (text.dropWhile isSpacing) = trim text := by
  apply Unicode.trim_dropWhile
  intro c spacing
  simp only [isSpacing, Bool.or_eq_true, decide_eq_true_eq] at spacing
  rcases spacing with rfl | rfl
  · decide
  · decide

omit [PatternEngine] in
theorem trim_bareBlockLine (line : List Char) : trim (bareBlockLine line) = trim (blockLine line) := by
  unfold bareBlockLine blockLine
  split
  · rename_i rest starred
    have bare : Text.stripStart ['*'] ('*' :: rest) = rest := Text.stripStart_append ['*'] rest
    rw [starred, bare, trim_dropSpacing]
  · rename_i unstarred
    rw [Text.stripStart, if_neg]
    intro opens
    obtain ⟨rest, whole⟩ := List.isPrefixOf_iff_prefix.1 opens
    exact unstarred rest whole.symm

omit [PatternEngine] in
theorem trim_stripEnd_return (line : List Char) : trim (Text.stripEnd ['\r'] line) = trim line := by
  by_cases ended : ['\r'] <:+ line
  · obtain ⟨front, rfl⟩ := ended
    rw [Text.stripEnd_append, Unicode.trim_concat (by decide)]
  · rw [Text.stripEnd, if_neg (mt List.isSuffixOf_iff_suffix.1 ended)]

omit [PatternEngine] in
theorem feed_notMem_bareBlockLine {line : List Char} (single : '\n' ∉ line) :
    '\n' ∉ bareBlockLine line := by
  have trimmed : '\n' ∉ trim line := mt Unicode.mem_of_mem_trim single
  unfold bareBlockLine
  split
  · rename_i rest starred
    rw [starred, List.mem_cons, not_or] at trimmed
    exact mt (fun member => (List.dropWhile_sublist _).subset member) trimmed.2
  · exact trimmed

/-- Line feeds at the ends of a text make blank lines only. -/
theorem ofLines_dropFeeds (text : List Char) :
    ofLines (Text.lines (dropEnd (· = '\n') (text.dropWhile (· = '\n')))) =
      ofLines (Text.lines text) := by
  let rest := text.dropWhile (· = '\n')
  have isFeed : ∀ c ∈ text.takeWhile (· = '\n'), c = '\n' := by
    intro c member
    simpa using List.mem_takeWhile_imp member
  obtain ⟨tail, parted, feeds⟩ := Unicode.exists_append_dropEnd (· = '\n') rest
  obtain ⟨before, emptyBefore, front⟩ := Text.exists_lines_feeds_append isFeed rest
  obtain ⟨after, emptyAfter, back⟩ := Text.exists_lines_append_feeds
    (fun c member => of_decide_eq_true (feeds c member)) (dropEnd (· = '\n') rest)
  rw [List.takeWhile_append_dropWhile] at front
  rw [← parted] at back
  rw [front, back, ofLines_blank_append, ofLines_append_blank]
  · intro line member
    rw [emptyAfter line member]
    rfl
  · intro line member
    rw [emptyBefore line member]
    rfl

/-- **The spacing after the mark of a line** is no part of the documentation. -/
theorem ofComment_lines_eq (texts : List String) :
    ofComment (.lines texts) = ofLines (texts.map fun text => bareLine text.toList) := by
  apply ofLines_congr
  rw [List.map_map, List.map_map]
  exact List.map_congr_left fun text _ => (trim_dropSpacing _).symm

/-- **A block is read like the text that it is without its marks.** -/
theorem ofComment_block_eq (text : String) :
    ofComment (.block text) = ofLines (Text.lines (bareBlock text)) := by
  have single : ∀ line ∈ (blockLines text).map bareBlockLine, '\n' ∉ line :=
    List.forall_mem_map.2 fun line member =>
      feed_notMem_bareBlockLine (Text.feed_notMem_of_mem_lines member)
  have filled : (blockLines text).map bareBlockLine ≠ [] :=
    mt List.map_eq_nil_iff.1 (Text.lines_ne_nil _)
  rw [bareBlock, ofLines_dropFeeds, Text.lines_intercalate_of_notMem filled single,
    ofComment_block]
  apply ofLines_congr
  rw [List.map_map, List.map_map]
  exact List.map_congr_left fun line _ => (trim_bareBlockLine line).symm

/-- **A description is read by the lines that are ended in it.** -/
theorem ofDescription_eq (text : String) :
    ofDescription text = ofLines (endedLines text.toList) := by
  have parted : Text.lines text.toList =
      (Text.lines text.toList).dropLast ++ [Text.lastLine text.toList] :=
    (List.dropLast_append_getLast _).symm
  have trimmed : ((Text.lines text.toList).dropLast.map (Text.stripEnd ['\r'])).map trim =
      (Text.lines text.toList).dropLast.map trim := by
    rw [List.map_map]
    exact List.map_congr_left fun line _ => trim_stripEnd_return line
  rw [ofDescription, ← Text.lines, parted, endedLines]
  split
  · rename_i empty
    rw [empty, ofLines_append_blank (by decide), List.append_nil, ofLines_congr trimmed]
  · apply ofLines_congr
    rw [List.map_append, List.map_append, trimmed]

end Doc

end InputDocs
