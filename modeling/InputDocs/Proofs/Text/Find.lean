import InputDocs.Text.Find
import Mathlib.Data.List.Induction

/-!
# Proofs.Text.Find -- which occurrence is the last

`splitLast` cuts a text around the occurrence that begins last (`splitLast_eq_some_iff`).

Where a part stands before marks of one kind, it may occur again further on, over its own end and
some of the marks. Then the part agrees with itself shifted by a few places, up to the marks that
come in at its end, and going through it by that many places from the end shows that it is made of
marks alone (`eq_mark_of_shifted`). So a part with any other character occurs last where it stands
before the marks (`splitLast_before_marks`), and a part that is made of marks occurs last at the end
of the text (`splitLast_of_marks`).
-/

namespace InputDocs.Text

set_option autoImplicit false

variable {part text before after : List Char}

/-- There is no cut only if there is no occurrence. -/
theorem splitLast_eq_none_iff : splitLast part text = none ↔ ¬ part <:+: text := by
  induction text with
  | nil => simp [splitLast]
  | cons c rest ih =>
      rw [splitLast, List.infix_cons_iff, not_or, ← ih]
      cases splitLast part rest <;> simp

/-- No occurrence begins after the one that is cut out. -/
theorem length_le_of_splitLast {front rest : List Char}
    (cut : splitLast part text = some (before, after)) (whole : front ++ part ++ rest = text) :
    front.length ≤ before.length := by
  induction text generalizing front before with
  | nil =>
      obtain ⟨rfl, -⟩ := List.append_eq_nil_iff.1 (List.append_eq_nil_iff.1 whole).1
      exact Nat.zero_le _
  | cons c text ih =>
      cases front with
      | nil => exact Nat.zero_le _
      | cons first front =>
          obtain ⟨-, inside⟩ := List.cons.inj whole
          rw [splitLast] at cut
          split at cut
          · rename_i found
            cases cut
            exact Nat.succ_le_succ (ih found inside)
          · rename_i absent
            exact absurd ⟨front, rest, inside⟩ (splitLast_eq_none_iff.1 absent)

/-- **The cut is around the occurrence that begins last.** -/
theorem splitLast_eq_some_iff :
    splitLast part text = some (before, after) ↔
      before ++ part ++ after = text ∧
        ∀ front rest, front ++ part ++ rest = text → front.length ≤ before.length := by
  constructor
  · intro cut
    exact ⟨splitLast_append cut, fun front rest whole => length_le_of_splitLast cut whole⟩
  · rintro ⟨whole, last⟩
    cases cut : splitLast part text with
    | none => exact absurd ⟨before, after, whole⟩ (splitLast_eq_none_iff.1 cut)
    | some found =>
        obtain ⟨before', after'⟩ := found
        have whole' := splitLast_append cut
        have long := length_le_of_splitLast cut whole
        have short := last before' after' whole'
        have parts : before' ++ (part ++ after') = before ++ (part ++ after) := by
          rw [← List.append_assoc, ← List.append_assoc, whole', whole]
        obtain ⟨rfl, same⟩ := List.append_inj parts (Nat.le_antisymm short long)
        rw [List.append_cancel_left same]

/-! ## A part before marks -/

variable {mark : Char}

/-- A part that is itself again after a shift, with marks coming in at its end, consists of
marks. -/
theorem eq_mark_of_shifted {shift : List Char} {count : Nat} (shifted : shift ≠ [])
    (same : shift ++ part = part ++ List.replicate count mark) : ∀ c ∈ part, c = mark := by
  induction part using List.reverseRecOn with
  | nil => exact nofun
  | append_singleton part last ih =>
      have count_pos : count ≠ 0 := by
        rintro rfl
        simp [shifted] at same
      obtain ⟨fewer, rfl⟩ := Nat.exists_eq_succ_of_ne_zero count_pos
      rw [List.replicate_succ', ← List.append_assoc, ← List.append_assoc] at same
      obtain ⟨inner, ends⟩ := List.append_inj' same rfl
      obtain rfl : last = mark := List.singleton_inj.1 ends
      -- The last character is a mark, so what is left is shifted into marks as well.
      have shorter : shift ++ part = part ++ List.replicate (fewer + 1) last := by
        rw [inner, List.append_assoc, List.singleton_append, ← List.replicate_succ]
      intro c member
      rcases List.mem_append.1 member with earlier | final
      · exact ih shorter c earlier
      · exact List.mem_singleton.1 final

/-- A part that does not consist of marks occurs last before the marks at the end. -/
theorem splitLast_before_marks (front : List Char) (count : Nat) (other : ∃ c ∈ part, c ≠ mark) :
    splitLast part (front ++ part ++ List.replicate count mark) =
      some (front, List.replicate count mark) := by
  refine splitLast_eq_some_iff.2 ⟨rfl, ?_⟩
  intro later rest whole
  by_contra! longer
  rw [List.append_assoc, List.append_assoc, List.append_eq_append_iff] at whole
  rcases whole with ⟨shift, rfl, -⟩ | ⟨shift, rfl, parts⟩
  · simp at longer
  · have lengths := congrArg List.length parts
    simp only [List.length_append, List.length_replicate] at lengths
    have shifted : shift ≠ [] := by
      rintro rfl
      simp at longer
    -- The marks that the occurrence leaves are the last ones.
    have marks : List.replicate count mark =
        List.replicate shift.length mark ++ List.replicate rest.length mark := by
      rw [List.replicate_append_replicate]
      congr 1
      omega
    rw [marks, ← List.append_assoc, ← List.append_assoc] at parts
    obtain ⟨same, -⟩ := List.append_inj' parts (by simp)
    obtain ⟨c, member, different⟩ := other
    exact different (eq_mark_of_shifted shifted same.symm c member)

/-- A part that consists of marks occurs last at the end of the text. -/
theorem splitLast_of_marks (front : List Char) (count : Nat) (only : ∀ c ∈ part, c = mark) :
    splitLast part (front ++ part ++ List.replicate count mark) =
      some (front ++ List.replicate count mark, []) := by
  have spelled := List.eq_replicate_of_mem only
  refine splitLast_eq_some_iff.2 ⟨?_, ?_⟩
  · rw [spelled, List.append_nil, List.append_assoc, List.append_assoc,
      List.replicate_append_replicate, List.replicate_append_replicate, Nat.add_comm]
  · intro later rest whole
    have lengths := congrArg List.length whole
    simp only [List.length_append, List.length_replicate] at lengths ⊢
    omega

example : splitLast ")".toList "map(object()))".toList = some ("map(object())".toList, []) := by
  decide

end InputDocs.Text
