import InputDocs.Proofs.Token.Layout
import Mathlib.Data.List.DropRight

/-!
# Proofs.Token.Places -- what a place says about the text before it

A place is kept up to date character by character, over gaps and tokens of every class, and once
more over the whole text. `Position.Follows` says what it should come to without walking: the offset
is the number of bytes before the place, the line counts the line feeds before it and the column the
characters after the last of them. `Position.follows_after` is the induction that shows it.

So a place is true as soon as it is the place after some beginning of the text
(`Position.TrueIn`, `Position.trueIn_of_front`). The tokenizer answers only such places, with its
tokens (`Token.LaidOut.exists_front`) and with an error (`Token.exists_front_of_error`). Each token has at
least one character, so the offsets go up, and the end of the text is above them all
(`Token.LaidOut.ascending`).
-/

namespace InputDocs

set_option autoImplicit false

/-! ## True places -/

namespace Position

/-- The place after `before`, counted there. -/
structure Follows (place : Position) (before : List Char) : Prop where
  offset : place.offset = (String.ofList before).utf8ByteSize
  line : place.line = 1 + before.count '\n'
  column : place.column = 1 + (before.rtakeWhile (· ≠ '\n')).length

/-- The place is in the text, before or after one of its characters, and counted there. -/
structure TrueIn (text : String) (place : Position) : Prop where
  within : place.offset ≤ text.utf8ByteSize
  boundary : (String.Pos.Raw.mk place.offset).IsValid text
  counted : ∃ before rest, text.toList = before ++ rest ∧ place.Follows before

theorem after_concat (before : List Char) (c : Char) :
    after (before ++ [c]) = (after before).step c := by
  rw [after, advance_append]
  rfl

/-- **The place after a text is counted rightly.** -/
theorem follows_after (before : List Char) : (after before).Follows before := by
  induction before using List.reverseRecOn with
  | nil => exact ⟨rfl, rfl, rfl⟩
  | append_singleton before c ih =>
      refine ⟨Token.offset_after _, ?_, ?_⟩
      · rw [after_concat, step, List.count_append]
        by_cases feed : c = '\n'
        · simp [feed, ih.line, Nat.add_assoc]
        · simp [feed, ih.line]
      · rw [after_concat, step]
        by_cases feed : c = '\n'
        · simp [feed]
        · simp [feed, ih.column, Nat.add_comm]

theorem trueIn_of_front {text : String} {before rest : List Char}
    (whole : text.toList = before ++ rest) : (after before).TrueIn text := by
  have parts : text = String.ofList before ++ String.ofList rest := by
    rw [← String.ofList_append, ← whole, String.ofList_toList]
  have offset := Token.offset_after before
  refine ⟨?_, ?_, before, rest, whole, follows_after before⟩
  · rw [offset, parts, String.utf8ByteSize_append]
    exact Nat.le_add_right _ _
  · rw [offset, String.Pos.Raw.isValid_iff_exists_append]
    exact ⟨String.ofList before, String.ofList rest, parts, rfl⟩

theorem offset_append (before text : List Char) :
    (after (before ++ text)).offset =
      (after before).offset + (String.ofList text).utf8ByteSize := by
  simp only [Token.offset_after, String.ofList_append, String.utf8ByteSize_append]

theorem offset_lt_append (before : List Char) {text : List Char} (filled : text ≠ []) :
    (after before).offset < (after (before ++ text)).offset := by
  have bytes : (String.ofList text).utf8ByteSize ≠ 0 := by
    simpa using filled
  rw [offset_append]
  omega

end Position

/-! ## Places of tokens and of lexical errors -/

namespace Token

variable {before text : List Char} {placed : List Placed}

/-- A token stands after some beginning of the text. -/
theorem LaidOut.exists_front (laid : LaidOut before placed text) :
    ∀ token ∈ placed, ∃ front rest, before ++ text = front ++ rest ∧
      token.position = .after front := by
  induction laid with
  | last => exact fun token member => absurd member List.not_mem_nil
  | @token before gap more token others between lexeme stops rest ih =>
      refine List.forall_mem_cons.2
        ⟨⟨before ++ gap, token.text.toList ++ more, by simp, rfl⟩, ?_⟩
      intro later member
      obtain ⟨front, tail, whole, stands⟩ := ih later member
      exact ⟨front, tail, by rw [← whole]; simp, stands⟩

theorem LaidOut.offset_le (laid : LaidOut before placed text) :
    ∀ token ∈ placed, (Position.after before).offset ≤ token.position.offset := by
  induction laid with
  | last => exact fun token member => absurd member List.not_mem_nil
  | @token before gap more token others between lexeme stops rest ih =>
      refine List.forall_mem_cons.2 ⟨?_, fun later member => ?_⟩
      · rw [Position.offset_append]
        omega
      · have above := ih later member
        rw [List.append_assoc, Position.offset_append] at above
        omega

/-- Offsets go up from token to token, and to the end of the text. -/
theorem LaidOut.ascending (laid : LaidOut before placed text) :
    (placed.map (·.position.offset) ++ [(Position.after (before ++ text)).offset]).Pairwise
      (· < ·) := by
  induction laid with
  | last => simp
  | @token before gap more token others between lexeme stops rest ih =>
      have own := Position.offset_lt_append (before ++ gap) lexeme.text_ne_nil
      have whole : before ++ (gap ++ (token.text.toList ++ more)) =
          before ++ gap ++ token.text.toList ++ more := by simp
      rw [whole, List.map_cons, List.cons_append, List.pairwise_cons]
      refine ⟨?_, ih⟩
      intro offset member
      refine Nat.lt_of_lt_of_le own ?_
      rcases List.mem_append.1 member with later | ends
      · obtain ⟨next, among, rfl⟩ := List.mem_map.1 later
        exact rest.offset_le next among
      · rw [List.mem_singleton.1 ends, Position.offset_append _ more]
        exact Nat.le_add_right _ _

/-- The tokenizer stops after some beginning of the text. -/
theorem exists_front_of_error {place : Position} {error : LexicalError}
    (failed : tokenizeFrom place text = .error error) (here : place = .after before) :
    ∃ front rest, before ++ text = front ++ rest ∧ error.position = .after front := by
  refine tokenizeFrom_error_induction (motive := fun place text error =>
    ∀ before, place = .after before →
      ∃ front rest, before ++ text = front ++ rest ∧ error.position = .after front)
    ?_ ?_ failed before here
  · rintro place text gap c rest fault between _ before rfl
    have parts := splitGap_append false text
    rw [between] at parts
    exact ⟨before ++ gap, c :: rest, by rw [List.append_assoc, parts], after_append before gap⟩
  · rintro place text gap token more error between _ _ ih before rfl
    have parts := splitGap_append false text
    rw [between] at parts
    obtain ⟨front, tail, whole, stands⟩ :=
      ih (before ++ gap ++ token.text.toList) (by rw [after_append, after_append])
    exact ⟨front, tail, by rw [← whole, ← parts]; simp only [List.append_assoc], stands⟩

/-! ## Whole texts -/

section

variable {whole : String}

theorem laidOut_of_tokenize (scanned : tokenize whole = .ok placed) :
    LaidOut [] placed whole.toList :=
  laidOut_of_tokenizeFrom scanned rfl

theorem trueIn_of_tokenize (scanned : tokenize whole = .ok placed) :
    ∀ token ∈ placed, token.position.TrueIn whole := by
  intro token member
  obtain ⟨front, rest, parts, stands⟩ := (laidOut_of_tokenize scanned).exists_front token member
  rw [stands]
  exact Position.trueIn_of_front parts

theorem trueIn_of_error {error : LexicalError} (failed : tokenize whole = .error error) :
    error.position.TrueIn whole := by
  have stops : ∃ front rest, [] ++ whole.toList = front ++ rest ∧ error.position = .after front :=
    exists_front_of_error failed rfl
  obtain ⟨front, rest, parts, stands⟩ := stops
  rw [stands]
  exact Position.trueIn_of_front parts

end

end Token

end InputDocs
