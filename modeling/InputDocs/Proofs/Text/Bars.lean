import InputDocs.Proofs.Unicode.Case

/-!
# Proofs.Text.Bars -- bars that no backslash stands before

A bar in a table ends a cell unless a backslash stands immediately before it. `bareBars` counts the
bars that do. The count of texts that are put together is the sum of their counts when the second
one does not begin with a bar (`bareBars_append`); so a character between two texts that is neither
a bar nor a backslash keeps their counts apart (`bareBars_append_mark`), and a text has no bare bars
exactly if its parts between such characters have none (`bareBars_intercalate_eq_zero_iff`).

Writing a text in another case brings in no bare bars (`bareBars_respelled_le`): bars and
backslashes are kept, and what stands between them is not lost in a way that would bare a bar.
-/

namespace InputDocs.Text

set_option autoImplicit false

/-- The bars without a backslash immediately before them; `escaped` says whether one stands
immediately before the text. -/
def bareBarsAfter (escaped : Bool) : List Char → Nat
  | [] => 0
  | c :: rest => (if c = '|' ∧ escaped = false then 1 else 0) + bareBarsAfter (c = '\\') rest

/-- The bars of a text without a backslash immediately before them. -/
def bareBars (text : List Char) : Nat := bareBarsAfter false text

variable {c : Char} {text : List Char}

/-! ## Characters -/

@[simp] theorem bareBars_nil : bareBars [] = 0 := rfl

@[simp] theorem bareBars_bar (rest : List Char) : bareBars ('|' :: rest) = 1 + bareBars rest := rfl

/-- A character that is neither a bar nor a backslash does not count. -/
theorem bareBars_mark (noBar : c ≠ '|') (noSlash : c ≠ '\\') (rest : List Char) :
    bareBars (c :: rest) = bareBars rest := by
  simp [bareBars, bareBarsAfter, noBar, noSlash]

/-- A backslash before a text matters only if the text begins with a bar. -/
theorem bareBarsAfter_of_head (escaped : Bool) (head : text.head? ≠ some '|') :
    bareBarsAfter escaped text = bareBars text := by
  cases text with
  | nil => rfl
  | cons c rest =>
      have noBar : c ≠ '|' := by simpa using head
      simp [bareBars, bareBarsAfter, noBar]

theorem bareBarsAfter_of_notMem (escaped : Bool) (absent : '|' ∉ text) :
    bareBarsAfter escaped text = 0 := by
  induction text generalizing escaped with
  | nil => rfl
  | cons c rest ih =>
      rw [List.mem_cons, not_or] at absent
      rw [bareBarsAfter, ih _ absent.2, if_neg fun bar => absent.1 bar.1.symm]

theorem bareBars_of_notMem (absent : '|' ∉ text) : bareBars text = 0 :=
  bareBarsAfter_of_notMem false absent

/-- A text without bare bars does not begin with a bar. -/
theorem head?_ne_bar (none : bareBars text = 0) : text.head? ≠ some '|' := by
  intro head
  obtain ⟨rest, rfl⟩ : ∃ rest, text = '|' :: rest := by
    cases text with
    | nil => cases head
    | cons c rest => exact ⟨rest, by rw [Option.some_inj.1 head]⟩
  simp at none

/-! ## Texts that are put together -/

theorem bareBars_append (first : List Char) {second : List Char}
    (head : second.head? ≠ some '|') :
    bareBars (first ++ second) = bareBars first + bareBars second := by
  suffices ∀ escaped, bareBarsAfter escaped (first ++ second) =
      bareBarsAfter escaped first + bareBars second from this false
  induction first with
  | nil =>
      intro escaped
      rw [List.nil_append, bareBarsAfter_of_head escaped head, bareBarsAfter, Nat.zero_add]
  | cons c rest ih =>
      intro escaped
      rw [List.cons_append, bareBarsAfter, bareBarsAfter, ih, Nat.add_assoc]

theorem bareBars_append_mark (noBar : c ≠ '|') (noSlash : c ≠ '\\') (first second : List Char) :
    bareBars (first ++ c :: second) = bareBars first + bareBars second := by
  rw [bareBars_append first (by simpa using noBar), bareBars_mark noBar noSlash]

theorem bareBars_append_eq_zero {first second : List Char} (left : bareBars first = 0)
    (right : bareBars second = 0) : bareBars (first ++ second) = 0 := by
  rw [bareBars_append first (head?_ne_bar right), left, right]

theorem bareBars_flatMap_eq_zero {α : Type} {map : α → List Char} {items : List α}
    (each : ∀ item ∈ items, bareBars (map item) = 0) : bareBars (items.flatMap map) = 0 := by
  induction items with
  | nil => rfl
  | cons first rest ih =>
      obtain ⟨here, later⟩ := List.forall_mem_cons.1 each
      rw [List.flatMap_cons]
      exact bareBars_append_eq_zero here (ih later)

/-- Texts with a separator between them that keeps their counts apart. -/
theorem bareBars_intercalate_eq_zero_iff {mark : List Char}
    (apart : ∀ first second,
      bareBars (first ++ (mark ++ second)) = bareBars first + bareBars second)
    (parts : List (List Char)) :
    bareBars (mark.intercalate parts) = 0 ↔ ∀ part ∈ parts, bareBars part = 0 := by
  induction parts with
  | nil => exact iff_of_true rfl nofun
  | cons first rest ih =>
      cases rest with
      | nil => rw [List.intercalate_singleton, List.forall_mem_singleton]
      | cons second others =>
          rw [List.intercalate_cons_cons, List.append_assoc, apart, Nat.add_eq_zero_iff, ih,
            List.forall_mem_cons (l := second :: others)]

/-- Between marks there are no bare bars if there are none in the whole text. -/
theorem bareBars_of_mem_splitOn {mark : Char} {part : List Char} (noBar : mark ≠ '|')
    (noSlash : mark ≠ '\\') (none : bareBars text = 0) (member : part ∈ text.splitOn mark) :
    bareBars part = 0 := by
  have apart (first second : List Char) :
      bareBars (first ++ ([mark] ++ second)) = bareBars first + bareBars second :=
    bareBars_append_mark noBar noSlash first second
  rw [← text.intercalate_splitOn mark, bareBars_intercalate_eq_zero_iff apart] at none
  exact none part member

/-! ## Texts in another case -/

theorem bareBarsAfter_le (escaped : Bool) (text : List Char) :
    bareBarsAfter escaped text ≤ bareBars text := by
  cases text with
  | nil => exact Nat.le_refl _
  | cons c rest =>
      refine Nat.add_le_add_right ?_ _
      split
      · rename_i bare
        simp [bare.1]
      · exact Nat.zero_le _

theorem bareBarsAfter_append_le (escaped : Bool) {first : List Char} (absent : '|' ∉ first)
    (second : List Char) : bareBarsAfter escaped (first ++ second) ≤ bareBars second := by
  induction first generalizing escaped with
  | nil => exact bareBarsAfter_le escaped second
  | cons c rest ih =>
      rw [List.mem_cons, not_or] at absent
      rw [List.cons_append, bareBarsAfter, if_neg fun bar => absent.1 bar.1.symm, Nat.zero_add]
      exact ih _ absent.2

/-- **Another spelling has no more bare bars.** -/
theorem bareBarsAfter_respelled_le {written : List Char} (spelled : Unicode.Respelled text written)
    (escaped : Bool) : bareBarsAfter escaped written ≤ bareBarsAfter escaped text := by
  induction spelled generalizing escaped with
  | nil => exact Nat.le_refl _
  | keep c rest ih => exact Nat.add_le_add_left (ih _) _
  | @change c image text written cased apart rest ih =>
      have noBar : '|' ∉ image := apart '|' (by decide)
      have noSlash : c ≠ '\\' := fun same => cased (same ▸ by decide)
      calc bareBarsAfter escaped (image ++ written)
        _ ≤ bareBars written := bareBarsAfter_append_le escaped noBar written
        _ ≤ bareBars text := ih false
        _ = bareBarsAfter (decide (c = '\\')) text := by rw [decide_eq_false noSlash, bareBars]
        _ ≤ bareBarsAfter escaped (c :: text) := Nat.le_add_left _ _

theorem bareBars_respelled_le {written : List Char} (spelled : Unicode.Respelled text written) :
    bareBars written ≤ bareBars text :=
  bareBarsAfter_respelled_le spelled false

end InputDocs.Text
