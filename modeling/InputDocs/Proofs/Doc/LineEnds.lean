import InputDocs.Proofs.Field.Rewording
import InputDocs.Proofs.Text.LineEnds

/-!
# Proofs.Doc.LineEnds -- documentation trims its lines

Documentation depends on its lines as they are trimmed (`Doc.ofLines_congr`), so carriage returns
before line feeds do not change that of a description (`Doc.ofDescription_returned`).

A comment keeps its carriage returns, and two comments that say the same can have different texts.
`Rewording.canonical` gives them one text: the mark of a line and the line trimmed, and between the
marks of a block its lines trimmed. It keeps the documentation of every comment
(`Rewording.canonical_keepsDocs`), and it forgets what line ends differ in, also in places, of
which only the offset counts them.
-/

namespace InputDocs

set_option autoImplicit false

open Unicode (trim)

namespace Doc

theorem ofLines_congr [PatternEngine] {first second : List (List Char)}
    (same : first.map trim = second.map trim) :
    ofLines first = ofLines second := by
  rw [ofLines, same, ofLines]

/-- **Carriage returns in a description do not change its documentation.** -/
theorem ofDescription_returned [PatternEngine] {plain returned : String}
    (related : Text.Returned plain.toList returned.toList) :
    ofDescription returned = ofDescription plain :=
  ofLines_congr related.trim_lines

/-! ## Canonical comments -/

/-- A line comment, trimmed after its mark. -/
def canonicalLine (text : String) : String :=
  String.ofList ("///".toList ++ trim (Text.stripStart "///".toList text.toList))

/-- The lines of a block comment between its marks. -/
def blockLines (text : String) : List (List Char) :=
  Text.lines (Text.stripEnd "*/".toList (Text.stripStart "/**".toList text.toList))

/-- A block comment with its lines trimmed. -/
def canonicalBlock (text : String) : String :=
  String.ofList ("/**".toList ++ (['\n'].intercalate ((blockLines text).map trim) ++ "*/".toList))

theorem ofComment_block [PatternEngine] (text : String) :
    ofComment (.block text) = ofLines ((blockLines text).map blockLine) := rfl

theorem canonicalLine_of_toList {text : String} {line : List Char}
    (spelled : text.toList = "///".toList ++ line) :
    canonicalLine text = String.ofList ("///".toList ++ trim line) := by
  have opened := Text.stripStart_append "///".toList line
  rw [← spelled] at opened
  exact congrArg (fun line => String.ofList ("///".toList ++ trim line)) opened

theorem stripStart_canonicalLine (text : String) :
    Text.stripStart "///".toList (canonicalLine text).toList =
      trim (Text.stripStart "///".toList text.toList) :=
  (congrArg (Text.stripStart "///".toList) String.toList_ofList).trans
    (Text.stripStart_append "///".toList _)

theorem blockLines_of_toList {text : String} {inner : List Char}
    (spelled : text.toList = "/**".toList ++ (inner ++ "*/".toList)) :
    blockLines text = Text.lines inner := by
  have opened := Text.stripStart_append "/**".toList (inner ++ "*/".toList)
  have closed := Text.stripEnd_append "*/".toList inner
  rw [← spelled] at opened
  rw [← opened] at closed
  exact congrArg Text.lines closed

theorem canonicalBlock_congr {first second : String}
    (same : (blockLines first).map trim = (blockLines second).map trim) :
    canonicalBlock first = canonicalBlock second :=
  congrArg (fun lines => String.ofList ("/**".toList ++ (['\n'].intercalate lines ++ "*/".toList)))
    same

/-- The lines of a canonical block are the lines of the block, trimmed. -/
theorem blockLines_canonicalBlock (text : String) :
    blockLines (canonicalBlock text) = (blockLines text).map trim := by
  have spelled : blockLines (canonicalBlock text) =
      Text.lines (['\n'].intercalate ((blockLines text).map trim)) :=
    blockLines_of_toList String.toList_ofList
  rw [spelled]
  apply Text.lines_intercalate_of_notMem (mt List.map_eq_nil_iff.1 (Text.lines_ne_nil _))
  intro line member
  obtain ⟨written, among, rfl⟩ := List.mem_map.1 member
  exact mt Unicode.mem_of_mem_trim (Text.feed_notMem_of_mem_lines among)

theorem blockLine_trim (line : List Char) : blockLine (trim line) = blockLine line := by
  rw [blockLine, Unicode.trim_trim, blockLine]

end Doc

namespace Rewording

/-- Comments with their lines trimmed, and places without their offsets. -/
def canonical : Rewording where
  line := Doc.canonicalLine
  block := Doc.canonicalBlock
  place position := { position with offset := 0 }

/-- **A canonical comment says what the comment says.** -/
theorem canonical_keepsDocs [PatternEngine] : canonical.KeepsDocs := by
  intro comment
  cases comment with
  | lines texts =>
      refine Doc.ofLines_congr ?_
      simp only [canonical, List.map_map]
      refine List.map_congr_left fun text _ => ?_
      simp only [Function.comp_apply, Doc.stripStart_canonicalLine, Unicode.trim_trim]
  | block text =>
      rw [Comment.reword, Doc.ofComment_block, Doc.ofComment_block]
      change Doc.ofLines ((Doc.blockLines (Doc.canonicalBlock text)).map Doc.blockLine) = _
      rw [Doc.blockLines_canonicalBlock, List.map_map]
      exact congrArg Doc.ofLines (List.map_congr_left fun line _ => Doc.blockLine_trim line)

end Rewording

end InputDocs
