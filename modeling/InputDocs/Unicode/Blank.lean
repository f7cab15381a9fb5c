/-!
# Unicode.Blank -- white space and trimming

White space is the property White_Space of the standard, twenty-five code points. `trim` takes it
off both ends of a text and leaves the middle alone.
-/

namespace InputDocs.Unicode

set_option autoImplicit false

/-- The property White_Space. -/
def isBlank (c : Char) : Bool :=
  let code := c.toNat
  (9 ≤ code && code ≤ 13) || code == 0x20 || code == 0x85 || code == 0xA0 || code == 0x1680 ||
    (0x2000 ≤ code && code ≤ 0x200A) || code == 0x2028 || code == 0x2029 || code == 0x202F ||
    code == 0x205F || code == 0x3000

/-- Drop the longest end that satisfies `p`. -/
def dropEnd (p : Char → Bool) (text : List Char) : List Char :=
  (text.reverse.dropWhile p).reverse

/-- White space taken off both ends. -/
def trim (text : List Char) : List Char :=
  dropEnd isBlank (text.dropWhile isBlank)

/-! ## Trimming -/

@[simp] theorem dropEnd_nil (p : Char → Bool) : dropEnd p [] = [] := rfl

/-- The dropped end satisfies the test, so dropping is cutting off an end. -/
theorem exists_append_dropEnd (p : Char → Bool) (text : List Char) :
    ∃ tail, text = dropEnd p text ++ tail ∧ ∀ c ∈ tail, p c := by
  refine ⟨(text.reverse.takeWhile p).reverse, ?_, ?_⟩
  · rw [dropEnd, ← List.reverse_append, List.takeWhile_append_dropWhile, List.reverse_reverse]
  · intro c member
    exact List.all_eq_true.1 List.all_takeWhile c (List.mem_reverse.1 member)

/-- Trimming cuts off both ends of a text. -/
theorem exists_append_trim (text : List Char) :
    ∃ lead tail, text = lead ++ trim text ++ tail := by
  obtain ⟨tail, whole, _⟩ := exists_append_dropEnd isBlank (text.dropWhile isBlank)
  refine ⟨text.takeWhile isBlank, tail, ?_⟩
  rw [List.append_assoc, trim, ← whole, List.takeWhile_append_dropWhile]

/-- A text without white space is not trimmed. -/
theorem trim_of_visible {text : List Char} (visible : ∀ c ∈ text, isBlank c = false) :
    trim text = text := by
  have kept {text : List Char} (visible : ∀ c ∈ text, isBlank c = false) :
      text.dropWhile isBlank = text := by
    cases text with
    | nil => rfl
    | cons c rest => exact List.dropWhile_cons_of_neg (by simp [visible c List.mem_cons_self])
  rw [trim, kept visible, dropEnd, kept, List.reverse_reverse]
  intro c member
  exact visible c (List.mem_reverse.1 member)

/-- Trimming brings in no characters. -/
theorem mem_of_mem_trim {c : Char} {text : List Char} (member : c ∈ trim text) : c ∈ text := by
  have dropped : c ∈ text.dropWhile isBlank :=
    List.mem_reverse.1 ((List.dropWhile_sublist _).subset (List.mem_reverse.1 member))
  exact (List.dropWhile_sublist _).subset dropped

/-- Trimming takes off white space only. -/
theorem mem_trim_of_visible {c : Char} {text : List Char} (visible : isBlank c = false)
    (member : c ∈ text) : c ∈ trim text := by
  obtain ⟨tail, whole, blanks⟩ := exists_append_dropEnd isBlank (text.dropWhile isBlank)
  rw [← List.takeWhile_append_dropWhile (p := isBlank) (l := text), whole] at member
  rcases List.mem_append.1 member with head | later
  · have blank := List.all_eq_true.1 List.all_takeWhile c head
    exact Bool.noConfusion (blank.symm.trans visible)
  · rcases List.mem_append.1 later with kept | last
    · exact kept
    · exact Bool.noConfusion ((blanks c last).symm.trans visible)

end InputDocs.Unicode
