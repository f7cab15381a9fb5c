import InputDocs.Proofs.Text.Lines
import InputDocs.Render.Json
import InputDocs.Splice

/-!
# Proofs.Render.Harmless -- lines that are not the end marker

A rendering is put between two marker lines of a document, so none of its lines may be read as
the line that ends the region. The end marker has an underscore, and it is made of few characters.
So a line is not the end marker if it has no underscore, or if it has a visible character that is
not in the marker (`Harmless`). Both reasons survive when lines are put together
(`Harmless.append`), so a text is checked piece by piece (`HarmlessLines.append`).

A manifest rendered as JSON has harmless lines only (`harmlessLines_json`): every user text stands
on one line between quotes, and what stands outside the strings has no underscore.
-/

namespace InputDocs

set_option autoImplicit false

open Text (lines)
open Unicode (isBlank trim)

namespace Render

/-! ## Harmless lines -/

/-- A visible character that is not in the end marker. -/
def IsGuard (c : Char) : Prop := isBlank c = false ∧ c ∉ Splice.defaultEnd.toList

instance : DecidablePred IsGuard := fun _ => inferInstanceAs (Decidable (_ ∧ _))

/-- A line that is not the end marker because it lacks one of its characters or has another. -/
def Harmless (line : List Char) : Prop := '_' ∉ line ∨ ∃ c ∈ line, IsGuard c

theorem Harmless.append {first second : List Char} (left : Harmless first)
    (right : Harmless second) : Harmless (first ++ second) := by
  rcases left with absentLeft | ⟨c, member, guard⟩
  · rcases right with absentRight | ⟨c, member, guard⟩
    · refine .inl ?_
      rw [List.mem_append, not_or]
      exact ⟨absentLeft, absentRight⟩
    · exact .inr ⟨c, List.mem_append_right _ member, guard⟩
  · exact .inr ⟨c, List.mem_append_left _ member, guard⟩

theorem Harmless.trim_ne {line : List Char} (harmless : Harmless line) :
    trim line ≠ Splice.defaultEnd.toList := by
  intro same
  rcases harmless with absent | ⟨c, member, visible, other⟩
  · refine absent (Unicode.mem_of_mem_trim ?_)
    rw [same]
    decide
  · exact other (same ▸ Unicode.mem_trim_of_visible visible member)

/-! ## Texts with harmless lines -/

/-- No line of the text is the end marker, for the reasons of `Harmless`. -/
def HarmlessLines (text : List Char) : Prop := ∀ line ∈ lines text, Harmless line

variable {text : List Char}

theorem HarmlessLines.append {first second : List Char} (left : HarmlessLines first)
    (right : HarmlessLines second) : HarmlessLines (first ++ second) :=
  Text.forall_mem_lines_append (fun _ _ => Harmless.append) left right

theorem harmlessLines_of_notMem (absent : '_' ∉ text) : HarmlessLines text :=
  fun _ member => .inl fun among => absent (Text.mem_of_mem_lines member among)

/-- A text on one line is guarded as a whole. -/
theorem harmlessLines_of_guard {c : Char} (guard : IsGuard c) (member : c ∈ text)
    (single : '\n' ∉ text) : HarmlessLines text := by
  intro line among
  rw [Text.lines_of_notMem single, List.mem_singleton] at among
  exact .inr ⟨c, among ▸ member, guard⟩

/-! ## Values -/

theorem lowerHex_ne_feed : ∀ n < 16, Text.lowerHex n ≠ '\n' := by
  decide

theorem feed_notMem_escapeChar (c : Char) : '\n' ∉ Json.escapeChar c := by
  unfold Json.escapeChar
  repeat' split
  all_goals try decide
  · rename_i control
    have high := lowerHex_ne_feed (c.toNat / 16) (by omega)
    have low := lowerHex_ne_feed (c.toNat % 16) (Nat.mod_lt _ (by decide))
    simp [Ne.symm high, Ne.symm low]
  · rename_i noFeed _ _ _ _ _
    simp [Ne.symm noFeed]

theorem feed_notMem_quote (s : String) : '\n' ∉ Json.quote s := by
  have inside : '\n' ∉ s.toList.flatMap Json.escapeChar := by
    intro member
    obtain ⟨c, _, escaped⟩ := List.mem_flatMap.1 member
    exact feed_notMem_escapeChar c escaped
  simp [Json.quote, inside]

theorem harmlessLines_quote (s : String) : HarmlessLines (Json.quote s) :=
  harmlessLines_of_guard (c := '"') (by decide) List.mem_cons_self (feed_notMem_quote s)

theorem notMem_digits (n : Nat) : '_' ∉ Numeral.digits n := by
  intro member
  rw [Numeral.digits, Nat.toString_eq_repr, Nat.toList_repr] at member
  exact absurd (Nat.isDigit_of_mem_toDigits (by decide) (by decide) member) (by decide)

theorem notMem_positional {digits : List Char} (absent : '_' ∉ digits) (whole : Int) :
    '_' ∉ Numeral.positional digits whole := by
  unfold Numeral.positional
  split
  · simp [absent]
  · dsimp only
    split
    · simp [absent]
    · have front := mt (List.mem_of_mem_take (i := whole.toNat)) absent
      have back := mt (List.mem_of_mem_drop (i := whole.toNat)) absent
      simp [front, back]

theorem notMem_scientific {digits : List Char} (absent : '_' ∉ digits) (exponent : Int) :
    '_' ∉ Numeral.scientific digits exponent := by
  have front := mt (List.mem_of_mem_take (i := 1)) absent
  have back := mt List.mem_of_mem_tail absent
  have power := notMem_digits exponent.natAbs
  unfold Numeral.scientific
  split <;> split <;> simp [front, back, power]

theorem notMem_decimalText (decimal : Binary64.Decimal) : '_' ∉ Numeral.decimalText decimal := by
  have absent : '_' ∉ ((Numeral.digits decimal.digits).reverse.dropWhile (· = '0')).reverse := by
    intro member
    exact notMem_digits _ (List.mem_reverse.1
      ((List.dropWhile_sublist _).subset (List.mem_reverse.1 member)))
  unfold Numeral.decimalText
  split
  · decide
  · dsimp only
    split
    · exact notMem_positional absent _
    · exact notMem_scientific absent _

theorem notMem_numeral (value : Numeral) : '_' ∉ value.text := by
  cases value with
  | whole value =>
      cases value with
      | ofNat n => exact notMem_digits n
      | negSucc n =>
          have absent := notMem_digits (n + 1)
          change '_' ∉ ("-" ++ toString (n + 1)).toList
          rw [String.toList_append, List.mem_append, not_or]
          exact ⟨by decide, absent⟩
  | double negative magnitude =>
      have absent := notMem_decimalText magnitude.shortest
      rw [Numeral.text, List.mem_append, not_or]
      exact ⟨by cases negative <;> decide, absent⟩

theorem harmlessLines_leafText (value : Json) : HarmlessLines value.leafText := by
  cases value with
  | null => exact harmlessLines_of_notMem (by decide)
  | bool value => cases value <;> exact harmlessLines_of_notMem (by decide)
  | number value => exact harmlessLines_of_notMem (notMem_numeral value)
  | string value => exact harmlessLines_quote value
  | array _ =>
      change HarmlessLines ['[', ']']
      exact harmlessLines_of_notMem (by decide)
  | object _ =>
      change HarmlessLines ['\x7b', '\x7d']
      exact harmlessLines_of_notMem (by decide)

theorem harmlessLines_lineBreak (depth : Nat) : HarmlessLines (Json.lineBreak depth) := by
  refine harmlessLines_of_notMem ?_
  simp [Json.lineBreak]

mutual

theorem harmlessLines_prettyAt (depth : Nat) (value : Json) :
    HarmlessLines (value.prettyAt depth) := by
  have mark {c : Char} (other : c ≠ '_') : HarmlessLines [c] :=
    harmlessLines_of_notMem (by simpa using Ne.symm other)
  cases value with
  | array items =>
      cases items with
      | nil => exact harmlessLines_leafText (.array [])
      | cons first rest =>
          have items := harmlessLines_prettyItems (depth + 1) (first :: rest)
          have inside := items.append (harmlessLines_lineBreak depth)
          exact (mark (c := '[') (by decide)).append (inside.append (mark (c := ']') (by decide)))
  | object entries =>
      cases entries with
      | nil => exact harmlessLines_leafText (.object [])
      | cons first rest =>
          have entries := harmlessLines_prettyEntries (depth + 1) (first :: rest)
          have inside := entries.append (harmlessLines_lineBreak depth)
          exact (mark (c := '\x7b') (by decide)).append
            (inside.append (mark (c := '\x7d') (by decide)))
  | null => exact harmlessLines_leafText .null
  | bool value => exact harmlessLines_leafText (.bool value)
  | number value => exact harmlessLines_leafText (.number value)
  | string value => exact harmlessLines_leafText (.string value)

theorem harmlessLines_prettyItems (depth : Nat) (items : List Json) :
    HarmlessLines (Json.prettyItems depth items) := by
  have comma : HarmlessLines [','] := harmlessLines_of_notMem (by decide)
  have indent := harmlessLines_lineBreak depth
  cases items with
  | nil => exact harmlessLines_of_notMem List.not_mem_nil
  | cons first rest =>
      have head := indent.append (harmlessLines_prettyAt depth first)
      cases rest with
      | nil => exact head
      | cons second others =>
          exact head.append (comma.append (harmlessLines_prettyItems depth (second :: others)))

theorem harmlessLines_prettyEntries (depth : Nat) (entries : List (String × Json)) :
    HarmlessLines (Json.prettyEntries depth entries) := by
  have colon : HarmlessLines [':', ' '] := harmlessLines_of_notMem (by decide)
  have comma : HarmlessLines [','] := harmlessLines_of_notMem (by decide)
  have indent := harmlessLines_lineBreak depth
  cases entries with
  | nil => exact harmlessLines_of_notMem List.not_mem_nil
  | cons first rest =>
      obtain ⟨key, value⟩ := first
      have named := indent.append (harmlessLines_quote key)
      have valued := colon.append (harmlessLines_prettyAt depth value)
      cases rest with
      | nil => exact named.append valued
      | cons second others =>
          have later := comma.append (harmlessLines_prettyEntries depth (second :: others))
          have whole := named.append (valued.append later)
          rw [Json.prettyEntries, List.append_assoc]
          · simpa using whole
          · exact List.cons_ne_nil _ _

end

/-- **A manifest as JSON cannot close its region.** -/
theorem harmlessLines_json (manifest : Manifest) : HarmlessLines (json manifest).toList := by
  have value := harmlessLines_prettyAt 0 (manifestJson manifest)
  have feed : HarmlessLines ['\n'] := harmlessLines_of_notMem (by decide)
  rw [json, Json.pretty, String.toList_append, String.toList_ofList]
  exact value.append feed

end Render

end InputDocs
