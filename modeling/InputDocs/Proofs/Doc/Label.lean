import InputDocs.Proofs.Doc.Normal
import InputDocs.Proofs.Token.Lexeme
import Mathlib.Data.List.TakeDrop

/-!
# Proofs.Doc.Label -- the grammar of a label and a target

`example` and `link` take a label between marks, white space and a target on one line. `Labelled`
is that grammar, without a reader. The label ends at the first closing mark and the white space
where the target begins, so a text has one label and one target at most (`Labelled.unique`), and
the reader finds them if there are any (`splitLabel_eq_some_iff`).

The grammar is also that of an expression for the whole text, `"([^"]+)"\s+(.+)` where the marks
are quotes. A repetition may give back what it took, and as far as the expression goes a target
may begin with white space. On a trimmed text nothing is gained by that: the first match is the
label and the target (`firstMatch_labelPieces_eq_some_iff`).

So a directive with a content of the grammar says the label and the target, and with any other
content it says nothing (`label_directives`).
-/

namespace InputDocs

set_option autoImplicit false

open Token (takeWhile_run dropWhile_run head?_dropWhile_run)
open Unicode (isBlank trim)

/-! ## Expressions for whole texts -/

namespace Text

/-- A piece of an expression: one character, or one and more characters of a class, which may be
a group of the match. -/
inductive Piece where
  | mark (c : Char)
  | many (captured : Bool) (p : Char → Bool)

/-- The groups of the first match of the whole text. A repetition first takes all that it can,
and gives back one character at a time until the other pieces match. -/
def firstMatch : List Piece → List Char → Option (List (List Char))
  | [], [] => some []
  | [], _ :: _ => none
  | .mark _ :: _, [] => none
  | .mark c :: pieces, d :: text => if c = d then firstMatch pieces text else none
  | .many captured p :: pieces, text =>
    (List.range (text.takeWhile p).length).reverse.findSome? fun given =>
      (firstMatch pieces (text.drop (given + 1))).map fun groups =>
        if captured then text.take (given + 1) :: groups else groups

variable {p : Char → Bool} {pieces : List Piece} {text : List Char}

/-- What a repetition gives back begins with a character of its class. -/
theorem exists_drop_eq_cons {n : Nat} (short : n < (text.takeWhile p).length) :
    ∃ c rest, text.drop n = c :: rest ∧ p c = true := by
  have front := List.takeWhile_prefix (l := text) p
  refine ⟨(text.takeWhile p)[n], text.drop (n + 1), ?_, ?_⟩
  · rw [List.drop_eq_getElem_cons (short.trans_le front.length_le), front.getElem short]
  · exact List.mem_takeWhile_imp (List.getElem_mem short)

/-- Nothing may be left over. -/
theorem firstMatch_leftover (left : text ≠ []) : firstMatch [] text = none := by
  obtain ⟨c, rest, rfl⟩ := List.exists_cons_of_ne_nil left
  rfl

/-- A repetition that gives nothing back: where the others do not match after all that it can
take, they match after nothing less. -/
theorem firstMatch_many (captured : Bool)
    (firm : firstMatch pieces (text.dropWhile p) = none →
      ∀ n, 0 < n → n < (text.takeWhile p).length → firstMatch pieces (text.drop n) = none) :
    firstMatch (.many captured p :: pieces) text =
      if text.takeWhile p = [] then none
      else (firstMatch pieces (text.dropWhile p)).map fun groups =>
        if captured then text.takeWhile p :: groups else groups := by
  have whole := List.takeWhile_append_dropWhile (p := p) (l := text)
  rw [firstMatch]
  cases long : (text.takeWhile p).length with
  | zero =>
      rw [if_pos (List.length_eq_zero_iff.1 long)]
      rfl
  | succ last =>
      have some_taken : text.takeWhile p ≠ [] := by
        intro none_taken
        simp [none_taken] at long
      have taken : text.take (last + 1) = text.takeWhile p := by
        conv => lhs; rw [← whole]
        exact List.take_left' long
      have left : text.drop (last + 1) = text.dropWhile p := by
        conv => lhs; rw [← whole]
        exact List.drop_left' long
      rw [if_neg some_taken, List.range_succ, List.reverse_append, List.reverse_singleton,
        List.singleton_append, List.findSome?_cons, taken, left]
      cases found : firstMatch pieces (text.dropWhile p) with
      | some groups => rfl
      | none =>
          show List.findSome? _ _ = none
          rw [List.findSome?_eq_none_iff]
          intro given earlier
          have shorter : given + 1 < (text.takeWhile p).length := by
            rw [List.mem_reverse, List.mem_range] at earlier
            omega
          rw [firm found (given + 1) (Nat.succ_pos given) shorter]
          rfl

end Text

namespace Directive

open Text (Piece exists_drop_eq_cons firstMatch firstMatch_leftover firstMatch_many)

/-! ## The grammar -/

/-- The text is a label between marks, white space and a target. The label has no closing mark,
and the target is on one line and does not begin with white space. -/
structure Labelled (opening closing : Char) (text label target : List Char) : Prop where
  spelled : ∃ gap, gap ≠ [] ∧ (∀ c ∈ gap, isBlank c = true) ∧
    text = opening :: (label ++ closing :: (gap ++ target))
  label_ne_nil : label ≠ []
  closing_notMem : closing ∉ label
  target_ne_nil : target ≠ []
  feed_notMem : '\n' ∉ target
  shown : ∀ c ∈ target.head?, isBlank c = false

variable {opening closing : Char} {text label target : List Char}

/-- What stops a label is the closing mark. -/
theorem eq_of_dropWhile_ne {mark : Char} {rest : List Char}
    (following : text.dropWhile (· ≠ closing) = mark :: rest) : mark = closing := by
  have head : mark ∈ (text.dropWhile (decide <| · ≠ closing)).head? := by
    rw [following]
    rfl
  simpa using head?_dropWhile_run head

/-- The reader finds what the grammar allows, and nothing else. -/
theorem splitLabel_eq_some_iff :
    splitLabel closing text = some (label, target) ↔
      Labelled opening closing (opening :: text) label target := by
  constructor
  · intro parted
    unfold splitLabel at parted
    split at parted
    · rename_i start mark gap rest spanned
      dsimp only at parted
      split at parted
      · rename_i fits
        obtain ⟨rfl, rfl⟩ := Prod.mk.inj (Option.some.inj parted)
        obtain ⟨some_label, blank, some_target, single⟩ := fits
        rw [List.span_eq_takeWhile_dropWhile] at spanned
        obtain ⟨rfl, following⟩ := Prod.mk.inj spanned
        obtain rfl := eq_of_dropWhile_ne following
        refine ⟨⟨gap :: rest.takeWhile isBlank, List.cons_ne_nil _ _, ?_, ?_⟩, some_label, ?_,
          some_target, single, fun c head => head?_dropWhile_run head⟩
        · rw [List.forall_mem_cons]
          exact ⟨blank, fun _ member => List.mem_takeWhile_imp member⟩
        · rw [List.cons_append, List.takeWhile_append_dropWhile, ← following,
            List.takeWhile_append_dropWhile]
        · intro member
          simpa using List.mem_takeWhile_imp member
      · cases parted
    · cases parted
  · intro labelled
    obtain ⟨gap, some_gap, blank, spelled⟩ := labelled.spelled
    obtain ⟨first, more, rfl⟩ := List.exists_cons_of_ne_nil some_gap
    obtain ⟨first_blank, more_blank⟩ := List.forall_mem_cons.1 blank
    obtain ⟨_, rfl⟩ := List.cons.inj spelled
    have inside : ∀ c ∈ label, decide (c ≠ closing) = true := by
      intro c member
      exact decide_eq_true fun same => labelled.closing_notMem (same ▸ member)
    have stops : ∀ c ∈ (closing :: (first :: more ++ target)).head?,
        decide (c ≠ closing) = false := by
      simp
    rw [splitLabel, List.span_eq_takeWhile_dropWhile, takeWhile_run inside stops,
      dropWhile_run inside stops]
    simp [dropWhile_run more_blank labelled.shown, labelled.label_ne_nil, first_blank,
      labelled.target_ne_nil, labelled.feed_notMem]

/-- A text has one label and one target. -/
theorem Labelled.unique {label' target' : List Char}
    (labelled : Labelled opening closing text label target)
    (labelled' : Labelled opening closing text label' target') :
    label = label' ∧ target = target' := by
  obtain ⟨gap, _, _, spelled⟩ := labelled.spelled
  rw [spelled] at labelled labelled'
  have same := (splitLabel_eq_some_iff.2 labelled).symm.trans (splitLabel_eq_some_iff.2 labelled')
  exact Prod.mk.inj (Option.some.inj same)

/-! ## The expression -/

/-- The expression of a label and a target: `opening`, a group without `closing`, `closing`, white
space, and a group that is the rest of the line. -/
def labelPieces (opening closing : Char) : List Piece :=
  [.mark opening, .many true (· ≠ closing), .mark closing, .many false isBlank,
    .many true (· ≠ '\n')]

/-- The label ends at the first closing mark: nothing shorter has the mark after it. -/
theorem firstMatch_upTo (closing : Char) (pieces : List Piece) (text : List Char) :
    firstMatch (.many true (· ≠ closing) :: .mark closing :: pieces) text =
      if text.takeWhile (· ≠ closing) = [] then none
      else (firstMatch (.mark closing :: pieces) (text.dropWhile (· ≠ closing))).map
        (text.takeWhile (· ≠ closing) :: ·) := by
  have firm : firstMatch (.mark closing :: pieces) (text.dropWhile (· ≠ closing)) = none →
      ∀ n, 0 < n → n < (text.takeWhile (· ≠ closing)).length →
        firstMatch (.mark closing :: pieces) (text.drop n) = none := by
    intro _ n _ short
    obtain ⟨c, rest, left, other⟩ := exists_drop_eq_cons short
    rw [left, firstMatch, if_neg fun same => of_decide_eq_true other same.symm]
  rw [firstMatch_many true firm]
  rfl

/-- The target is the rest of the text, if that is one line. -/
theorem firstMatch_target (text : List Char) :
    firstMatch [.many true (· ≠ '\n')] text =
      if text ≠ [] ∧ '\n' ∉ text then some [text] else none := by
  have firm : firstMatch [] (text.dropWhile (· ≠ '\n')) = none →
      ∀ n, 0 < n → n < (text.takeWhile (· ≠ '\n')).length → firstMatch [] (text.drop n) = none := by
    intro _ n _ short
    obtain ⟨c, rest, left, _⟩ := exists_drop_eq_cons short
    rw [left, firstMatch]
  rw [firstMatch_many true firm]
  by_cases single : '\n' ∈ text
  · have left : text.dropWhile (· ≠ '\n') ≠ [] := by
      rw [Ne, List.dropWhile_eq_nil_iff]
      intro all
      simpa using all '\n' single
    rw [firstMatch_leftover left, Option.map_none, ite_self, if_neg fun fits => fits.2 single]
  · have taken : text.takeWhile (· ≠ '\n') = text := by
      rw [List.takeWhile_eq_self_iff]
      intro c member
      exact decide_eq_true fun same => single (same ▸ member)
    have left : text.dropWhile (· ≠ '\n') = [] := by
      rw [List.dropWhile_eq_nil_iff]
      exact List.takeWhile_eq_self_iff.1 taken
    rw [taken, left]
    by_cases empty : text = []
    · simp [empty]
    · simp [empty, single, firstMatch]

/-- White space before a target is given back in vain. It would go before the target, and a target
with a line feed keeps it; a target is never missing where the text does not end with white
space. -/
theorem firstMatch_gap (shown : ∀ c ∈ text.getLast?, isBlank c = false) :
    firstMatch [.many false isBlank, .many true (· ≠ '\n')] text =
      if text.takeWhile isBlank = [] then none
      else firstMatch [.many true (· ≠ '\n')] (text.dropWhile isBlank) := by
  have firm : firstMatch [.many true (· ≠ '\n')] (text.dropWhile isBlank) = none →
      ∀ n, 0 < n → n < (text.takeWhile isBlank).length →
        firstMatch [.many true (· ≠ '\n')] (text.drop n) = none := by
    intro fails n _ short
    have some_text : text ≠ [] := by
      rintro rfl
      simp at short
    have some_target : text.dropWhile isBlank ≠ [] := by
      rw [Ne, List.dropWhile_eq_nil_iff]
      intro blank
      have last := shown (text.getLast some_text) (List.getLast?_eq_getLast_of_ne_nil some_text)
      rw [blank _ (List.getLast_mem some_text)] at last
      cases last
    have feed : '\n' ∈ text.dropWhile isBlank := by
      rw [firstMatch_target] at fails
      by_contra single
      simp [some_target, single] at fails
    have later : text.dropWhile isBlank <:+ text.drop n := by
      conv => rhs; rw [← List.takeWhile_append_dropWhile (p := isBlank) (l := text)]
      rw [List.drop_append_of_le_length short.le]
      exact List.suffix_append _ _
    rw [firstMatch_target, if_neg fun fits => fits.2 (later.subset feed)]
  rw [firstMatch_many false firm]
  simp

/-- A text that does not end with white space does not do so further on. -/
theorem shown_of_suffix {rest : List Char} (later : rest <:+ text)
    (shown : ∀ c ∈ text.getLast?, isBlank c = false) : ∀ c ∈ rest.getLast?, isBlank c = false := by
  obtain ⟨front, rfl⟩ := later
  intro c last
  refine shown c ?_
  rw [Option.mem_def, List.getLast?_append, Option.mem_def.1 last]
  rfl

/-- On a text that does not end with white space the first match is the reading. -/
theorem firstMatch_labelPieces (shown : ∀ c ∈ text.getLast?, isBlank c = false) :
    firstMatch (labelPieces opening closing) (opening :: text) =
      (splitLabel closing text).map fun (label, target) => [label, target] := by
  rw [labelPieces, firstMatch, if_pos rfl, firstMatch_upTo, splitLabel,
    List.span_eq_takeWhile_dropWhile]
  cases following : text.dropWhile (· ≠ closing) with
  | nil => simp only [firstMatch, Option.map_none, ite_self]
  | cons mark rest =>
      obtain rfl := eq_of_dropWhile_ne following
      have later : rest <:+ text := by
        refine (List.suffix_cons mark rest).trans ?_
        rw [← following]
        exact List.dropWhile_suffix _
      have ends := shown_of_suffix later shown
      rw [firstMatch, if_pos rfl, firstMatch_gap ends, firstMatch_target]
      generalize text.takeWhile (· ≠ mark) = label
      cases rest with
      | nil => simp
      | cons gap more =>
          by_cases blank : isBlank gap = true
          · simp only [List.takeWhile_cons_of_pos blank, List.dropWhile_cons_of_pos blank]
            generalize more.dropWhile isBlank = target
            by_cases unnamed : label = []
            · simp [unnamed]
            · by_cases fits : target ≠ [] ∧ '\n' ∉ target
              · simp [unnamed, fits, blank]
              · simp only [unnamed, fits, blank, ne_eq, not_false_eq_true, true_and, if_false,
                  reduceCtorEq, Option.map_none]
          · simp [blank]

/-- **The grammar is what the expression matches first.** A trimmed text has a match with two
groups exactly if it is a label and a target, and the groups are these. -/
theorem firstMatch_labelPieces_eq_some_iff {groups : List (List Char)}
    (trimmed : trim text = text) :
    firstMatch (labelPieces opening closing) text = some groups ↔
      ∃ label target, groups = [label, target] ∧
        Labelled opening closing text label target := by
  constructor
  · intro found
    cases text with
    | nil => cases found
    | cons c rest =>
        by_cases opens : opening = c
        · subst opens
          have shown := shown_of_suffix (List.suffix_cons opening rest)
            (Unicode.trim_eq_self_iff.1 trimmed).2
          rw [firstMatch_labelPieces shown] at found
          obtain ⟨⟨label, target⟩, parted, rfl⟩ := Option.map_eq_some_iff.1 found
          exact ⟨label, target, rfl, splitLabel_eq_some_iff.1 parted⟩
        · rw [labelPieces, firstMatch, if_neg opens] at found
          cases found
  · rintro ⟨label, target, rfl, labelled⟩
    obtain ⟨gap, _, _, spelled⟩ := labelled.spelled
    subst spelled
    have shown := shown_of_suffix (List.suffix_cons opening (label ++ closing :: (gap ++ target)))
      (Unicode.trim_eq_self_iff.1 trimmed).2
    rw [firstMatch_labelPieces shown, splitLabel_eq_some_iff.2 labelled]
    rfl

/-- White space at the end of a text would become a target. -/
example :
    firstMatch (labelPieces '"' '"') ['"', 'a', '"', ' ', ' '] = some [['a'], [' ']] := by
  decide

/-! ## Directives -/

theorem readSample_eq_sample_iff {name target : String} :
    readSample text = .sample name target ↔ Labelled '"' '"' text name.toList target.toList := by
  constructor
  · intro reading
    unfold readSample at reading
    split at reading
    · split at reading
      · rename_i parted
        obtain ⟨rfl, rfl⟩ := Meaning.sample.inj reading
        rw [String.toList_ofList, String.toList_ofList]
        exact splitLabel_eq_some_iff.1 parted
      · cases reading
    · cases reading
  · intro labelled
    obtain ⟨gap, _, _, rfl⟩ := labelled.spelled
    simp [readSample, splitLabel_eq_some_iff.2 labelled]

theorem readLink_eq_link_iff {style : LinkStyle} {name target : String} :
    readLink text = .link style name target ↔
      style = .named ∧ Labelled '"' '"' text name.toList target.toList ∨
        style = .reference ∧ Labelled '\x7b' '\x7d' text name.toList target.toList := by
  constructor
  · intro reading
    unfold readLink at reading
    split at reading
    · split at reading
      · rename_i parted
        obtain ⟨rfl, rfl, rfl⟩ := Meaning.link.inj reading
        rw [String.toList_ofList, String.toList_ofList]
        exact .inl ⟨rfl, splitLabel_eq_some_iff.1 parted⟩
      · cases reading
    · split at reading
      · rename_i parted
        obtain ⟨rfl, rfl, rfl⟩ := Meaning.link.inj reading
        rw [String.toList_ofList, String.toList_ofList]
        exact .inr ⟨rfl, splitLabel_eq_some_iff.1 parted⟩
      · cases reading
    · cases reading
  · rintro (⟨rfl, labelled⟩ | ⟨rfl, labelled⟩)
    · obtain ⟨gap, _, _, rfl⟩ := labelled.spelled
      simp [readLink, splitLabel_eq_some_iff.2 labelled]
    · obtain ⟨gap, _, _, rfl⟩ := labelled.spelled
      simp [readLink, splitLabel_eq_some_iff.2 labelled]

/-- The content of an example says a label and a target, or nothing. -/
theorem readSample_cases (text : List Char) :
    (∃ name target, readSample text = .sample name target) ∨
      readSample text = .malformed .sample := by
  unfold readSample
  split
  · split
    · exact .inl ⟨_, _, rfl⟩
    · exact .inr rfl
  · exact .inr rfl

/-- The content of a link says a label and a target in one of the styles, or nothing. -/
theorem readLink_cases (text : List Char) :
    (∃ style name target, readLink text = .link style name target) ∨
      readLink text = .malformed .link := by
  unfold readLink
  split
  · split
    · exact .inl ⟨_, _, _, rfl⟩
    · exact .inr rfl
  · split
    · exact .inl ⟨_, _, _, rfl⟩
    · exact .inr rfl
  · exact .inr rfl

theorem readSample_says_iff {name target : String} :
    (readSample text).isValid = true ∧ (readSample text).arguments = [name, target] ↔
      Labelled '"' '"' text name.toList target.toList := by
  rw [← readSample_eq_sample_iff]
  rcases readSample_cases text with ⟨label, place, said⟩ | silent
  · simp [said, Meaning.isValid, Meaning.arguments]
  · simp [silent, Meaning.isValid]

theorem readSample_silent_iff :
    (readSample text).isValid = false ∧ (readSample text).arguments = [] ∧
        (readSample text).linkStyle = none ↔
      ¬ ∃ name target : String, Labelled '"' '"' text name.toList target.toList := by
  simp only [← readSample_eq_sample_iff]
  rcases readSample_cases text with ⟨label, place, said⟩ | silent
  · simp [said, Meaning.isValid]
  · simp [silent, Meaning.isValid, Meaning.arguments, Meaning.linkStyle]

theorem readLink_says_iff {style : LinkStyle} {name target : String} :
    (readLink text).isValid = true ∧ (readLink text).linkStyle = some style ∧
        (readLink text).arguments = [name, target] ↔
      style = .named ∧ Labelled '"' '"' text name.toList target.toList ∨
        style = .reference ∧ Labelled '\x7b' '\x7d' text name.toList target.toList := by
  rw [← readLink_eq_link_iff]
  rcases readLink_cases text with ⟨shape, label, place, said⟩ | silent
  · simp [said, Meaning.isValid, Meaning.arguments, Meaning.linkStyle]
  · simp [silent, Meaning.isValid]

theorem readLink_silent_iff :
    (readLink text).isValid = false ∧ (readLink text).arguments = [] ∧
        (readLink text).linkStyle = none ↔
      ¬ ∃ name target : String, Labelled '"' '"' text name.toList target.toList ∨
        Labelled '\x7b' '\x7d' text name.toList target.toList := by
  have says_iff (name target : String) :
      Labelled '"' '"' text name.toList target.toList ∨
          Labelled '\x7b' '\x7d' text name.toList target.toList ↔
        ∃ style, readLink text = .link style name target := by
    simp [readLink_eq_link_iff, exists_or]
  simp only [says_iff]
  rcases readLink_cases text with ⟨style, label, place, said⟩ | silent
  · simp [said, Meaning.isValid]
  · simp [silent, Meaning.isValid, Meaning.arguments, Meaning.linkStyle]

/-- **Links and examples take their grammar and nothing else.** With a content of the grammar a
directive says the label and the target, and a link says by the marks which style it has. With any
other content it is not valid and says nothing. -/
theorem label_directives [PatternEngine] (content : String) :
    let text := trim content.toList
    let sample := (ofContent "example" content.toList).meaning
    let link := (ofContent "link" content.toList).meaning
    (∀ opening closing groups,
      firstMatch (labelPieces opening closing) text = some groups ↔
        ∃ label target, groups = [label, target] ∧ Labelled opening closing text label target) ∧
    (∀ name target,
      (sample.isValid = true ∧ sample.arguments = [name, target] ↔
        Labelled '"' '"' text name.toList target.toList) ∧
      (link.isValid = true ∧ link.linkStyle = some .named ∧ link.arguments = [name, target] ↔
        Labelled '"' '"' text name.toList target.toList) ∧
      (link.isValid = true ∧ link.linkStyle = some .reference ∧
          link.arguments = [name, target] ↔
        Labelled '\x7b' '\x7d' text name.toList target.toList)) ∧
    (sample.isValid = false ∧ sample.arguments = [] ∧ sample.linkStyle = none ↔
      ¬ ∃ name target : String, Labelled '"' '"' text name.toList target.toList) ∧
    (link.isValid = false ∧ link.arguments = [] ∧ link.linkStyle = none ↔
      ¬ ∃ name target : String, Labelled '"' '"' text name.toList target.toList ∨
        Labelled '\x7b' '\x7d' text name.toList target.toList) := by
  intro text sample link
  have reads_sample : sample = readSample text := by
    simp [sample, text, ofContent, read]
  have reads_link : link = readLink text := by
    simp [link, text, ofContent, read]
  rw [reads_sample, reads_link]
  refine ⟨fun opening closing groups =>
    firstMatch_labelPieces_eq_some_iff (Unicode.trim_trim content.toList),
    fun name target => ⟨readSample_says_iff, ?_, ?_⟩, readSample_silent_iff, readLink_silent_iff⟩
  · rw [readLink_says_iff]
    simp
  · rw [readLink_says_iff]
    simp

end Directive

end InputDocs
