import InputDocs.Manifest.Contribution
import InputDocs.Proofs.Doc.Label
import InputDocs.Proofs.Text.Lines
import InputDocs.Proofs.Token.Lexeme
import InputDocs.Proofs.Unicode.Case

/-!
# Proofs.Doc.OneLine -- what directives say is on one line

A directive is read from one line of documentation, so neither its name nor any part of its
content can have a line feed (`Doc.oneLine_of_directive?`). Documentation comes from three
places, and each gives lines: a description and a block comment are split at their line feeds, and
the `///` lines of a comment are tokens that end before theirs (`Doc.ofDescription_oneLine`,
`Doc.ofComment_oneLine`).

So the notes and the reference links that documentation adds to a manifest are on one line each
(`Doc.OneLine.notes`, `Doc.OneLine.references`).
-/

namespace InputDocs

set_option autoImplicit false

open Unicode (trim)

/-! ## Notes -/

/-- Neither the name nor the content has a line feed. -/
structure Note.OneLine (note : Note) : Prop where
  name : '\n' ∉ note.name.toList
  content : '\n' ∉ note.content.toList

/-- Every note is on one line. -/
structure Notes.OneLine (notes : Notes) : Prop where
  attributes : ∀ note ∈ notes.attributes, note.OneLine
  examples : ∀ note ∈ notes.examples, note.OneLine
  links : ∀ note ∈ notes.links, note.OneLine

/-! ## Directives -/

/-- The label and the target, if there are any, have no line feed. -/
def Meaning.OneLine : Meaning → Prop
  | .sample name target | .link _ name target => Note.OneLine ⟨name, target⟩
  | _ => True

/-- Everything that a directive adds to a manifest is on one line. -/
structure Directive.OneLine (directive : Directive) : Prop where
  titled : directive.titled.OneLine
  meaning : directive.meaning.OneLine

namespace Directive

theorem oneLine_of_splitLabel {close : Char} {text label target : List Char}
    (single : '\n' ∉ text) (parted : splitLabel close text = some (label, target)) :
    Note.OneLine ⟨String.ofList label, String.ofList target⟩ := by
  -- The text stands after an opening mark, whichever it is.
  have labelled : Labelled close close (close :: text) label target :=
    splitLabel_eq_some_iff.1 parted
  obtain ⟨gap, _, _, spelled⟩ := labelled.spelled
  refine ⟨?_, ?_⟩
  · rw [String.toList_ofList]
    intro member
    apply single
    rw [(List.cons.inj spelled).2]
    exact List.mem_append_left _ member
  · rw [String.toList_ofList]
    exact labelled.feed_notMem

variable {content : List Char}

theorem readSample_oneLine (single : '\n' ∉ content) : (readSample content).OneLine := by
  unfold readSample
  split
  · rw [List.mem_cons, not_or] at single
    split
    · rename_i parted
      exact oneLine_of_splitLabel single.2 parted
    · trivial
  · trivial

theorem readLink_oneLine (single : '\n' ∉ content) : (readLink content).OneLine := by
  unfold readLink
  split
  · rw [List.mem_cons, not_or] at single
    split
    · rename_i parted
      exact oneLine_of_splitLabel single.2 parted
    · trivial
  · rw [List.mem_cons, not_or] at single
    split
    · rename_i parted
      exact oneLine_of_splitLabel single.2 parted
    · trivial
  · trivial

theorem readPattern_oneLine (compiles : List Char → Bool) (content : List Char) :
    (readPattern compiles content).OneLine := by
  unfold readPattern
  repeat' split
  all_goals trivial

theorem read_oneLine (compiles : List Char → Bool) (name : String) (single : '\n' ∉ content) :
    (read compiles name content).OneLine := by
  unfold read
  split
  · exact readLink_oneLine single
  · split
    · exact readSample_oneLine single
    · split
      · trivial
      · split
        · exact readPattern_oneLine compiles content
        · repeat' split
          all_goals trivial

theorem ofContent_oneLine [PatternEngine] {name : String} (named : '\n' ∉ name.toList)
    (single : '\n' ∉ content) :
    (ofContent name content).OneLine := by
  have trimmed : '\n' ∉ trim content := mt Unicode.mem_of_mem_trim single
  refine ⟨⟨?_, ?_⟩, read_oneLine _ name trimmed⟩
  · rw [titled, String.toList_ofList]
    exact Unicode.notMem_capitalize (by decide) named
  · rw [titled, ofContent, String.toList_ofList]
    exact trimmed

end Directive

/-! ## Documentation -/

namespace Doc

/-- Every directive is on one line. -/
def OneLine (doc : Doc) : Prop := ∀ directive ∈ doc.directives, directive.OneLine

theorem OneLine.notes {doc : Doc} (single : doc.OneLine) : doc.notes.OneLine where
  attributes := by
    intro note member
    obtain ⟨directive, among, shown⟩ := List.mem_filterMap.1 member
    unfold Directive.attribute? at shown
    split at shown
    any_goals cases shown
    exact (single directive among).titled
  examples := by
    intro note member
    obtain ⟨directive, among, shown⟩ := List.mem_filterMap.1 member
    have parts := (single directive among).meaning
    unfold Directive.example? at shown
    split at shown
    · rename_i named
      cases shown
      rw [named] at parts
      exact parts
    · cases shown
  links := by
    intro note member
    obtain ⟨directive, among, shown⟩ := List.mem_filterMap.1 member
    have parts := (single directive among).meaning
    unfold Directive.link? at shown
    split at shown
    · rename_i named
      cases shown
      rw [named] at parts
      exact parts
    · cases shown

theorem OneLine.references {doc : Doc} (single : doc.OneLine) :
    ∀ name target, (name, target) ∈ doc.references → Note.OneLine ⟨name, target⟩ := by
  intro name target member
  obtain ⟨directive, among, shown⟩ := List.mem_filterMap.1 member
  have parts := (single directive among).meaning
  unfold Directive.reference? at shown
  split at shown
  · rename_i named
    cases shown
    rw [named] at parts
    exact parts
  · cases shown

variable [PatternEngine]

theorem oneLine_of_directive? {line : List Char} {directive : Directive} (single : '\n' ∉ line)
    (found : directive? line = some directive) : directive.OneLine := by
  unfold directive? at found
  split at found
  · rename_i rest
    rw [List.mem_cons, not_or] at single
    dsimp only at found
    split at found
    · cases found
    · cases found
      refine Directive.ofContent_oneLine ?_ ?_
      · rw [String.toList_ofList]
        exact mt (fun member => (List.takeWhile_sublist _).subset member) single.2
      · exact mt (fun member => (List.dropWhile_sublist _).subset (List.mem_of_mem_drop member))
          single.2
  · cases found

theorem ofLines_oneLine {lines : List (List Char)} (single : ∀ line ∈ lines, '\n' ∉ line) :
    (ofLines lines).OneLine := by
  intro directive member
  obtain ⟨trimmed, among, found⟩ := List.mem_filterMap.1 member
  obtain ⟨line, written, rfl⟩ := List.mem_map.1 among
  exact oneLine_of_directive? (mt Unicode.mem_of_mem_trim (single line written)) found

theorem ofDescription_oneLine (text : String) : (ofDescription text).OneLine :=
  ofLines_oneLine fun _ => Text.notMem_of_mem_splitOn

omit [PatternEngine] in
theorem mem_of_mem_stripStart {mark text : List Char} {c : Char}
    (member : c ∈ Text.stripStart mark text) : c ∈ text := by
  unfold Text.stripStart at member
  split at member
  · exact List.mem_of_mem_drop member
  · exact member

/-- A comment that is read from tokens has its directives on one line each. -/
theorem ofComment_oneLine {comment : Comment}
    (spelled : ∀ token ∈ comment.tokens, token.IsLexeme) : (ofComment comment).OneLine := by
  cases comment with
  | lines texts =>
      refine ofLines_oneLine ?_
      intro line member
      obtain ⟨text, among, rfl⟩ := List.mem_map.1 member
      obtain ⟨body, written, single⟩ := spelled (.docLine text) (List.mem_map_of_mem among)
      refine mt mem_of_mem_stripStart ?_
      rw [written]
      intro feed
      simp only [List.mem_cons] at feed
      rcases feed with same | same | same | inBody
      · exact absurd same (by decide)
      · exact absurd same (by decide)
      · exact absurd same (by decide)
      · exact single _ inBody rfl
  | block text =>
      refine ofLines_oneLine ?_
      intro line member
      obtain ⟨part, among, rfl⟩ := List.mem_map.1 member
      refine mt mem_of_mem_stripStart (mt Unicode.mem_of_mem_trim ?_)
      exact Text.notMem_of_mem_splitOn among

end Doc

end InputDocs
