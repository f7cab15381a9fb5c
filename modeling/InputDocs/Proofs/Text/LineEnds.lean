import InputDocs.Proofs.Text.Lines
import InputDocs.Unicode.Blank
import Mathlib.Data.List.DropRight
import Mathlib.Data.List.Forall2

/-!
# Proofs.Text.LineEnds -- carriage returns before line feeds

Some programs end a line with a carriage return and a line feed (`Text.crlf`). Half way through
such a text the next character can be the line feed alone, because what was read before ended with
the carriage return. So the proofs are about any text in which some line feeds have a carriage
return before them (`Text.Returned`), a relation that is kept where a text is cut, wherever the
first of the two texts is cut (`Returned.exists_append`).

Nothing but lines is changed, and a line only at its end, which is trimmed off (`Returned.lines`,
`Returned.trim_lines`).
-/

namespace InputDocs

set_option autoImplicit false

/-! ## Trimming -/

/-- What is dropped from both ends of a list leaves nothing to drop in front. -/
theorem Text.dropWhile_rdropWhile_dropWhile {α : Type} (p : α → Bool) (l : List α) :
    ((l.dropWhile p).rdropWhile p).dropWhile p = (l.dropWhile p).rdropWhile p := by
  obtain ⟨tail, whole⟩ := List.rdropWhile_prefix p (l.dropWhile p)
  cases left : (l.dropWhile p).rdropWhile p with
  | nil => rfl
  | cons first rest =>
      have kept := List.head?_dropWhile_not p l
      rw [← whole, left] at kept
      exact List.dropWhile_cons_of_neg (by simpa using kept)

namespace Unicode

/-- White space at the end of a line is trimmed off. -/
theorem trim_concat {c : Char} (blank : isBlank c = true) (text : List Char) :
    trim (text ++ [c]) = trim text := by
  unfold trim
  rw [List.dropWhile_append]
  split
  · rename_i nothing
    rw [List.isEmpty_iff.1 nothing, List.dropWhile_cons_of_pos blank]
    rfl
  · rw [dropEnd, List.reverse_append, List.reverse_singleton, List.singleton_append,
      List.dropWhile_cons_of_pos blank, ← dropEnd]

/-- What is trimmed begins and ends with no white space, and is not trimmed again. -/
theorem trim_trim (text : List Char) : trim (trim text) = trim text := by
  have stays : (trim text).dropWhile isBlank = trim text :=
    Text.dropWhile_rdropWhile_dropWhile isBlank text
  rw [trim, stays]
  exact List.rdropWhile_idempotent isBlank (text.dropWhile isBlank)

end Unicode

namespace Text

open Unicode (trim)

/-! ## The relation -/

/-- The second text is the first with a carriage return before some of its line feeds. -/
inductive Returned : List Char → List Char → Prop
  | nil : Returned [] []
  | same (c : Char) {plain returned : List Char} (rest : Returned plain returned) :
      Returned (c :: plain) (c :: returned)
  | feed {plain returned : List Char} (rest : Returned plain returned) :
      Returned ('\n' :: plain) ('\r' :: '\n' :: returned)

/-- The text with a carriage return before every line feed. -/
def crlf (text : String) : String :=
  String.ofList (text.toList.flatMap fun c => if c = '\n' then ['\r', '\n'] else [c])

theorem returned_crlf (text : String) : Returned text.toList (crlf text).toList := by
  rw [crlf, String.toList_ofList]
  induction text.toList with
  | nil => exact .nil
  | cons c rest ih =>
      rw [List.flatMap_cons]
      split
      · subst c
        exact .feed ih
      · exact .same c ih

namespace Returned

variable {plain returned : List Char}

theorem refl (text : List Char) : Returned text text := by
  induction text with
  | nil => exact .nil
  | cons c rest ih => exact .same c ih

/-- Where the first text is cut the second can be cut. -/
theorem exists_append {first second : List Char} (related : Returned (first ++ second) returned) :
    ∃ before after, returned = before ++ after ∧ Returned first before ∧ Returned second after := by
  induction first generalizing returned with
  | nil => exact ⟨[], returned, rfl, .nil, related⟩
  | cons c rest ih =>
      cases related with
      | same c related =>
          obtain ⟨before, after, rfl, left, right⟩ := ih related
          exact ⟨c :: before, after, rfl, .same c left, right⟩
      | feed related =>
          obtain ⟨before, after, rfl, left, right⟩ := ih related
          exact ⟨'\r' :: '\n' :: before, after, rfl, .feed left, right⟩

theorem eq_of_notMem (related : Returned plain returned) (single : '\n' ∉ plain) :
    returned = plain := by
  induction related with
  | nil => rfl
  | same c rest ih => rw [ih (List.not_mem_of_not_mem_cons single)]
  | feed rest ih => exact absurd List.mem_cons_self single

/-- The second text begins as the first does, or with a carriage return. -/
theorem mem_head? (related : Returned plain returned) :
    ∀ c ∈ returned.head?, c ∈ plain.head? ∨ c = '\r' := by
  intro c head
  cases related with
  | nil => cases head
  | same d rest => exact .inl head
  | feed rest => exact .inr (Option.some_inj.1 head).symm

/-! ## Lines -/

/-- The lines are the same up to a carriage return at their ends. -/
theorem lines (related : Returned plain returned) :
    List.Forall₂ (fun line ended => ended = line ∨ ended = line ++ ['\r'])
      (Text.lines plain) (Text.lines returned) := by
  induction related with
  | nil => exact .cons (.inl rfl) .nil
  | @same c plain returned rest ih =>
      by_cases feed : c = '\n'
      · subst feed
        rw [lines_feed, lines_feed]
        exact .cons (.inl rfl) ih
      · rw [lines_cons feed, lines_cons feed]
        obtain ⟨line, lines, split⟩ := List.exists_cons_of_ne_nil (lines_ne_nil plain)
        obtain ⟨ended, others, splitEnded⟩ := List.exists_cons_of_ne_nil (lines_ne_nil returned)
        rw [split, splitEnded] at ih ⊢
        obtain ⟨here, later⟩ := List.forall₂_cons.1 ih
        exact .cons (by simpa using here) later
  | @feed plain returned rest ih =>
      rw [lines_feed, lines_cons (by decide), lines_feed]
      exact .cons (.inr rfl) ih

/-- Trimmed, the lines are the same. -/
theorem trim_lines (related : Returned plain returned) :
    (Text.lines returned).map trim = (Text.lines plain).map trim := by
  have each : List.Forall₂ (fun line ended => trim line = trim ended)
      (Text.lines plain) (Text.lines returned) := by
    refine related.lines.imp ?_
    rintro line ended (rfl | rfl)
    · rfl
    · exact (Unicode.trim_concat rfl line).symm
  have mapped := List.forall₂_map_left_iff.2 (List.forall₂_map_right_iff.2 each)
  rw [List.forall₂_eq_eq_eq] at mapped
  exact mapped.symm

end Returned

end Text

end InputDocs
