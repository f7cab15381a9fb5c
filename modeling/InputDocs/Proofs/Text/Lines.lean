/-!
# Proofs.Text.Lines -- the lines of texts that are put together

A text is its lines with line feeds between them, so it can be taken apart and put together again
(`intercalate_lines`, `lines_intercalate`). Where two texts meet without a line feed the last line
of the first and the first line of the second become one, and nothing else changes
(`lines_append`).

Two consequences are used for texts that are built of many pieces. What holds of a line when it
holds of two lines that make it up holds of all lines of the whole (`forall_mem_lines_append`). And
of a piece of unknown text between two known characters, the lines that are neither its first nor
its last are lines of the whole (`mem_lines_of_mem_innerLines`), while every other line that it
takes part in has one of the two characters in it (`mem_lines_enclosed`).
-/

namespace InputDocs.Text

set_option autoImplicit false

/-- The lines of a text, without their line feeds. -/
def lines (text : List Char) : List (List Char) := text.splitOn '\n'

/-- The lines of a text that are neither the first nor the last. -/
def innerLines (text : List Char) : List (List Char) := (lines text).tail.dropLast

theorem lines_ne_nil (text : List Char) : lines text ≠ [] := List.splitOn_ne_nil _ text

theorem lines_nil : lines [] = [[]] := List.splitOn_nil _

theorem lines_of_notMem {text : List Char} (single : '\n' ∉ text) : lines text = [text] :=
  List.splitOn_eq_singleton single

theorem innerLines_of_notMem {text : List Char} (single : '\n' ∉ text) : innerLines text = [] := by
  rw [innerLines, lines_of_notMem single]
  rfl

theorem lines_append_feed (first second : List Char) :
    lines (first ++ '\n' :: second) = lines first ++ lines second :=
  List.splitOn_append_cons_self first second

theorem lines_feed (text : List Char) : lines ('\n' :: text) = [] :: lines text :=
  lines_append_feed [] text

theorem intercalate_lines (text : List Char) : ['\n'].intercalate (lines text) = text :=
  List.intercalate_splitOn '\n'

theorem lines_injective {first second : List Char} (same : lines first = lines second) :
    first = second := by
  rw [← intercalate_lines first, same, intercalate_lines]

theorem lines_cons {c : Char} (other : c ≠ '\n') (text : List Char) :
    lines (c :: text) = (lines text).modifyHead (c :: ·) := by
  rw [lines, List.splitOn_cons_eq_if_modifyHead, if_neg (by simpa using other), lines]

/-- A part of a split text does not have the character it is split at. -/
theorem notMem_of_mem_splitOn {mark : Char} {text part : List Char}
    (member : part ∈ text.splitOn mark) : mark ∉ part := by
  induction text generalizing part with
  | nil =>
      rw [List.splitOn_nil, List.mem_singleton] at member
      simp [member]
  | cons c rest ih =>
      obtain ⟨first, others, split⟩ :=
        List.exists_cons_of_ne_nil (List.splitOn_ne_nil mark rest)
      rw [split] at ih
      obtain ⟨inFirst, inOthers⟩ := List.forall_mem_cons.1 fun part => @ih part
      rw [List.splitOn_cons_eq_if_modifyHead, split] at member
      split at member
      · rcases List.mem_cons.1 member with rfl | later
        · exact List.not_mem_nil
        · exact ih later
      · rename_i other
        rcases List.mem_cons.1 member with rfl | later
        · rw [List.mem_cons, not_or]
          exact ⟨fun same => other (by simp [same]), inFirst⟩
        · exact inOthers part later

/-- A part of a split text has no characters but those of the text. -/
theorem mem_of_mem_splitOn {mark c : Char} {text part : List Char}
    (member : part ∈ text.splitOn mark) (among : c ∈ part) : c ∈ text := by
  induction text generalizing part with
  | nil =>
      rw [List.splitOn_nil, List.mem_singleton] at member
      rwa [member] at among
  | cons d rest ih =>
      obtain ⟨first, others, split⟩ :=
        List.exists_cons_of_ne_nil (List.splitOn_ne_nil mark rest)
      rw [split] at ih
      rw [List.splitOn_cons_eq_if_modifyHead, split] at member
      split at member
      · rcases List.mem_cons.1 member with rfl | later
        · cases among
        · exact List.mem_cons_of_mem _ (ih later among)
      · rcases List.mem_cons.1 member with rfl | later
        · rcases List.mem_cons.1 among with same | inFirst
          · exact same ▸ List.mem_cons_self
          · exact List.mem_cons_of_mem _ (ih List.mem_cons_self inFirst)
        · exact List.mem_cons_of_mem _ (ih (List.mem_cons_of_mem _ later) among)

/-- The parts of a split text make up what is left of the text without the character. -/
theorem flatten_splitOn (mark : Char) (text : List Char) :
    (text.splitOn mark).flatten = text.filter (· ≠ mark) := by
  induction text with
  | nil => rfl
  | cons c rest ih =>
      obtain ⟨first, others, split⟩ :=
        List.exists_cons_of_ne_nil (List.splitOn_ne_nil mark rest)
      rw [List.splitOn_cons_eq_if_modifyHead]
      by_cases same : c = mark
      · rw [if_pos (by simpa using same), List.flatten_cons, List.nil_append, ih,
          List.filter_cons_of_neg (by simpa using same)]
      · rw [split, List.flatten_cons] at ih
        rw [if_neg (by simpa using same), split, List.modifyHead_cons, List.flatten_cons,
          List.cons_append, ih, List.filter_cons_of_pos (by simpa using same)]

theorem feed_notMem_of_mem_lines {text line : List Char} (member : line ∈ lines text) :
    '\n' ∉ line :=
  notMem_of_mem_splitOn member

theorem mem_of_mem_lines {text line : List Char} {c : Char} (member : line ∈ lines text)
    (among : c ∈ line) : c ∈ text :=
  mem_of_mem_splitOn member among

/-- A text of line feeds has blank lines only. -/
theorem eq_nil_of_mem_lines {text line : List Char} (feeds : ∀ c ∈ text, c = '\n')
    (member : line ∈ lines text) : line = [] := by
  induction text with
  | nil => simpa [lines_nil] using member
  | cons c rest ih =>
      obtain ⟨rfl, others⟩ := List.forall_mem_cons.1 feeds
      rw [lines_feed] at member
      rcases List.mem_cons.1 member with same | later
      · exact same
      · exact ih others later

/-- The lines of texts with line feeds between them are the lines of the texts. -/
theorem lines_intercalate {parts : List (List Char)} (any : parts ≠ []) :
    lines (['\n'].intercalate parts) = parts.flatMap lines := by
  induction parts with
  | nil => exact absurd rfl any
  | cons first rest ih =>
      cases rest with
      | nil => simp
      | cons second others =>
          rw [List.intercalate_cons_cons, List.append_assoc, List.singleton_append,
            lines_append_feed, ih (List.cons_ne_nil _ _)]
          rfl

/-- A text without line feeds is a line by itself. -/
theorem flatMap_lines_of_notMem {parts : List (List Char)} (single : ∀ part ∈ parts, '\n' ∉ part) :
    parts.flatMap lines = parts := by
  induction parts with
  | nil => rfl
  | cons part rest ih =>
      obtain ⟨here, later⟩ := List.forall_mem_cons.1 single
      rw [List.flatMap_cons, lines_of_notMem here, ih later]
      rfl

/-- Texts without line feeds are found again in the text that they are joined to. -/
theorem lines_intercalate_of_notMem {parts : List (List Char)} (any : parts ≠ [])
    (single : ∀ part ∈ parts, '\n' ∉ part) : lines (['\n'].intercalate parts) = parts := by
  rw [lines_intercalate any, flatMap_lines_of_notMem single]

/-- Line feeds before a text make empty lines before its lines. -/
theorem exists_lines_feeds_append {feeds : List Char} (all : ∀ c ∈ feeds, c = '\n')
    (text : List Char) :
    ∃ blank, (∀ line ∈ blank, line = []) ∧ lines (feeds ++ text) = blank ++ lines text := by
  induction feeds with
  | nil => exact ⟨[], by simp, rfl⟩
  | cons c rest ih =>
      obtain ⟨rfl, others⟩ := List.forall_mem_cons.1 all
      obtain ⟨blank, empty, whole⟩ := ih others
      refine ⟨[] :: blank, List.forall_mem_cons.2 ⟨rfl, empty⟩, ?_⟩
      rw [List.cons_append, lines_feed, whole]
      rfl

/-- Line feeds after a text make empty lines after its lines. -/
theorem exists_lines_append_feeds {feeds : List Char} (all : ∀ c ∈ feeds, c = '\n')
    (text : List Char) :
    ∃ blank, (∀ line ∈ blank, line = []) ∧ lines (text ++ feeds) = lines text ++ blank := by
  cases feeds with
  | nil => exact ⟨[], by simp, by simp⟩
  | cons c rest =>
      obtain ⟨rfl, others⟩ := List.forall_mem_cons.1 all
      exact ⟨lines rest, fun _ => eq_nil_of_mem_lines others, lines_append_feed text rest⟩

/-! ## Where two texts meet -/

/-- The last line of a text. -/
def lastLine (text : List Char) : List Char := (lines text).getLast (lines_ne_nil text)

/-- Only the two lines that meet become one. -/
theorem lines_append (first second : List Char) :
    lines (first ++ second) =
      (lines first).dropLast ++ (lines second).modifyHead (lastLine first ++ ·) := by
  unfold lastLine
  induction first with
  | nil =>
      obtain ⟨head, others, split⟩ := List.exists_cons_of_ne_nil (lines_ne_nil second)
      simp [lines_nil, split]
  | cons c rest ih =>
      obtain ⟨head, others, split⟩ := List.exists_cons_of_ne_nil (lines_ne_nil rest)
      by_cases feed : c = '\n'
      · subst feed
        rw [List.cons_append, lines_feed, ih]
        simp [lines_feed, split]
      · rw [List.cons_append, lines_cons feed, ih]
        obtain ⟨next, more, followed⟩ := List.exists_cons_of_ne_nil (lines_ne_nil second)
        cases others with
        | nil => simp [lines_cons feed, split, followed]
        | cons second others => simp [lines_cons feed, split]

theorem lastLine_mem_lines (text : List Char) : lastLine text ∈ lines text :=
  List.getLast_mem (lines_ne_nil text)

/-- What holds of a line when it holds of two lines that make it up holds of every line of the
whole when it holds of every line of the parts. -/
theorem forall_mem_lines_append {p : List Char → Prop} (append : ∀ a b, p a → p b → p (a ++ b))
    {first second : List Char} (firstLines : ∀ line ∈ lines first, p line)
    (secondLines : ∀ line ∈ lines second, p line) : ∀ line ∈ lines (first ++ second), p line := by
  intro line member
  rw [lines_append] at member
  obtain ⟨head, others, split⟩ := List.exists_cons_of_ne_nil (lines_ne_nil second)
  rw [split] at member secondLines
  obtain ⟨holdsHead, holdsOthers⟩ := List.forall_mem_cons.1 secondLines
  rcases List.mem_append.1 member with before | after
  · exact firstLines line ((List.dropLast_sublist _).subset before)
  · rw [List.modifyHead_cons] at after
    rcases List.mem_cons.1 after with rfl | later
    · exact append _ _ (firstLines _ (lastLine_mem_lines first)) holdsHead
    · exact holdsOthers line later

/-! ## Known characters around a text -/

/-- A line of two texts with a character between them has it or is a line of one of the texts. -/
theorem mem_lines_append_cons {c : Char} (mark : c ≠ '\n') {before after line : List Char}
    (member : line ∈ lines (before ++ c :: after)) :
    line ∈ (lines before).dropLast ∨ c ∈ line ∨ line ∈ (lines after).tail := by
  obtain ⟨head, others, split⟩ := List.exists_cons_of_ne_nil (lines_ne_nil after)
  rw [lines_append, lines_cons mark, split] at member
  rcases List.mem_append.1 member with inBefore | inAfter
  · exact .inl inBefore
  · rcases List.mem_cons.1 inAfter with rfl | later
    · exact .inr (.inl (by simp))
    · refine .inr (.inr ?_)
      rw [split]
      exact later

theorem innerLines_eq (text : List Char) : innerLines text = (lines text).dropLast.tail :=
  List.tail_dropLast.symm

/-- A line that a text between two characters takes part in is an inner line of the text or has
one of the two in it. -/
theorem mem_lines_enclosed {c d : Char} (opening : c ≠ '\n') (closing : d ≠ '\n')
    {before text after line : List Char}
    (member : line ∈ lines (before ++ c :: (text ++ d :: after))) :
    line ∈ lines before ∨ c ∈ line ∨ line ∈ innerLines text ∨ d ∈ line ∨ line ∈ lines after := by
  rcases mem_lines_append_cons opening member with inBefore | opened | later
  · exact .inl ((List.dropLast_sublist _).subset inBefore)
  · exact .inr (.inl opened)
  · obtain ⟨head, others, split⟩ := List.exists_cons_of_ne_nil (lines_ne_nil after)
    rw [lines_append, lines_cons closing, split, List.modifyHead_cons, List.modifyHead_cons]
      at later
    rw [split, innerLines_eq]
    cases start : (lines text).dropLast with
    | nil =>
        rw [start, List.nil_append, List.tail_cons] at later
        exact .inr (.inr (.inr (.inr (List.mem_cons_of_mem _ later))))
    | cons first inner =>
        rw [start, List.cons_append, List.tail_cons] at later
        rcases List.mem_append.1 later with among | last
        · exact .inr (.inr (.inl among))
        · rcases List.mem_cons.1 last with rfl | inAfter
          · exact .inr (.inr (.inr (.inl (by simp))))
          · exact .inr (.inr (.inr (.inr (List.mem_cons_of_mem _ inAfter))))

/-- The inner lines of a text are lines of every text that it stands in. -/
theorem mem_lines_of_mem_innerLines {before text after line : List Char}
    (inner : line ∈ innerLines text) : line ∈ lines (before ++ (text ++ after)) := by
  have ofAppend : line ∈ (lines (text ++ after)).tail := by
    rw [innerLines_eq] at inner
    rw [lines_append]
    cases start : (lines text).dropLast with
    | nil =>
        rw [start] at inner
        cases inner
    | cons first others =>
        rw [start] at inner
        exact List.mem_append_left _ inner
  obtain ⟨head, others, split⟩ := List.exists_cons_of_ne_nil (lines_ne_nil (text ++ after))
  rw [split] at ofAppend
  rw [lines_append, split]
  exact List.mem_append_right _ (List.mem_cons_of_mem _ ofAppend)

end InputDocs.Text
