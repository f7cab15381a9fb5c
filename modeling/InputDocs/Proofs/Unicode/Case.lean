import InputDocs.Unicode.Case

/-!
# Proofs.Unicode.Case -- what case mapping does not bring in

The line feed, the underscore, the bar and the backslash have no case and are in the image of no
other character (`eq_of_mem_upper`, `eq_of_mem_lower`). So a text that is written in another case
keeps them where they are and gets no others (`Respelled`): a name on one line stays on one line, a
bar behind a backslash stays behind it, and a type name, which is put together from the parts of a
name between underscores, has no underscore at all.

The tables are searched once for these code points (`Avoids`, `upper_avoids`, `lower_avoids`);
everything else follows from the shape of `mapCode`.

Nothing is lost in lower case either: every character has an image (`eq_nil_of_lowercase`), and its
length does not depend on what stands around it (`length_lowercase_append`). On ASCII every image is
one character, that of core (`lowercase_of_ascii`, `capitalize_of_ascii`).
-/

namespace InputDocs.Unicode

set_option autoImplicit false

/-- Characters that case mapping makes of themselves only. -/
def caseless : List Char := ['\n', '_', '|', '\\']

theorem mem_caseless_iff {c : Char} :
    c ∈ caseless ↔ c = '\n' ∨ c = '_' ∨ c = '|' ∨ c = '\\' := by
  simp [caseless]

/-! ## The tables -/

/-- No entry of the tables leads to the code point. -/
def Avoids (runs : List CaseRun) (expansions : List (Nat × List Nat)) (code : Nat) : Prop :=
  (∀ entry ∈ expansions, code ∉ entry.2) ∧
    ∀ run ∈ runs, (code : Int) < run.1 + run.2.2.2 ∨ run.2.1 + run.2.2.2 < (code : Int)

instance (runs : List CaseRun) (expansions : List (Nat × List Nat)) (code : Nat) :
    Decidable (Avoids runs expansions code) :=
  inferInstanceAs (Decidable (_ ∧ _))

theorem upper_avoids {c : Char} (fixed : c ∈ caseless) :
    Avoids upperRuns upperExpansions c.toNat := by
  rcases mem_caseless_iff.1 fixed with rfl | rfl | rfl | rfl <;> decide +kernel

theorem lower_avoids {c : Char} (fixed : c ∈ caseless) :
    Avoids lowerRuns lowerExpansions c.toNat := by
  rcases mem_caseless_iff.1 fixed with rfl | rfl | rfl | rfl <;> decide +kernel

/-- A code point that the tables avoid comes from itself. -/
theorem eq_of_mem_mapCode {runs : List CaseRun} {expansions : List (Nat × List Nat)}
    {code image : Nat} (positive : 0 < image) (avoids : Avoids runs expansions image)
    (member : image ∈ mapCode runs expansions code) : code = image := by
  obtain ⟨expanded, shifted⟩ := avoids
  unfold mapCode at member
  split at member
  · rename_i entry codes found
    exact absurd member (expanded _ (List.mem_of_find?_eq_some found))
  · split at member
    · rename_i first last step shift found
      have inRun := List.find?_some found
      simp only [Bool.and_eq_true, decide_eq_true_eq] at inRun
      have bound := shifted _ (List.mem_of_find?_eq_some found)
      rw [List.mem_singleton] at member
      simp only at bound
      omega
    · exact (List.mem_singleton.1 member).symm

/-! ## Characters -/

variable {c image : Char}

theorem toNat_pos_of_caseless (fixed : image ∈ caseless) : 0 < image.toNat := by
  rcases mem_caseless_iff.1 fixed with rfl | rfl | rfl | rfl <;> decide

theorem ascii_of_caseless (fixed : image ∈ caseless) : image.toNat < 128 := by
  rcases mem_caseless_iff.1 fixed with rfl | rfl | rfl | rfl <;> decide

/-- A character above ASCII has no caseless character in an image that a table gives. -/
theorem notMem_map_mapCode {runs : List CaseRun} {expansions : List (Nat × List Nat)}
    (fixed : image ∈ caseless) (avoids : Avoids runs expansions image.toNat)
    (above : ¬ c.toNat < 128) : image ∉ (mapCode runs expansions c.toNat).map Char.ofNat := by
  intro member
  have positive := toNat_pos_of_caseless fixed
  obtain ⟨code, among, same⟩ := List.mem_map.1 member
  have code_eq : code = image.toNat := by
    by_cases valid : code.isValidChar
    · have shown : Char.ofNat code = Char.ofNatAux code valid := dif_pos valid
      rw [← same, shown]
      rfl
    · have shown : Char.ofNat code = '\x00' := dif_neg valid
      rw [← same, shown] at positive
      exact absurd positive (by decide)
  rw [code_eq] at among
  exact above (eq_of_mem_mapCode positive avoids among ▸ ascii_of_caseless fixed)

/-- What has been checked for the codes of ASCII holds of its characters. -/
theorem of_ascii {p : Char → Prop} (ascii : c.toNat < 128)
    (checked : ∀ code < 128, p (Char.ofNat code)) : p c := by
  have found := checked c.toNat ascii
  rwa [Char.ofNat_toNat] at found

theorem eq_of_toUpper_mem (ascii : c.toNat < 128) : c.toUpper ∈ caseless → c = c.toUpper :=
  of_ascii (p := fun c => c.toUpper ∈ caseless → c = c.toUpper) ascii (by decide)

theorem eq_of_toLower_mem (ascii : c.toNat < 128) : c.toLower ∈ caseless → c = c.toLower :=
  of_ascii (p := fun c => c.toLower ∈ caseless → c = c.toLower) ascii (by decide)

theorem eq_of_mem_upper (fixed : image ∈ caseless) (member : image ∈ upper c) : c = image := by
  unfold upper at member
  split at member
  · rename_i ascii
    obtain rfl := List.mem_singleton.1 member
    exact eq_of_toUpper_mem ascii fixed
  · rename_i above
    exact absurd member (notMem_map_mapCode fixed (upper_avoids fixed) above)

theorem eq_of_mem_lower (fixed : image ∈ caseless) (member : image ∈ lower c) : c = image := by
  unfold lower at member
  split at member
  · rename_i ascii
    obtain rfl := List.mem_singleton.1 member
    exact eq_of_toLower_mem ascii fixed
  · rename_i above
    exact absurd member (notMem_map_mapCode fixed (lower_avoids fixed) above)

theorem upper_of_caseless (fixed : c ∈ caseless) : upper c = [c] := by
  rw [upper_of_ascii (ascii_of_caseless fixed)]
  rcases mem_caseless_iff.1 fixed with rfl | rfl | rfl | rfl <;> decide

theorem lower_of_caseless (fixed : c ∈ caseless) : lower c = [c] := by
  rw [lower_of_ascii (ascii_of_caseless fixed)]
  rcases mem_caseless_iff.1 fixed with rfl | rfl | rfl | rfl <;> decide

/-! ## Words and texts -/

/-- The second text is the first with some characters written in another way. A caseless character
is never changed and never written for another one. -/
inductive Respelled : List Char → List Char → Prop
  | nil : Respelled [] []
  | keep {text written : List Char} (c : Char) (rest : Respelled text written) :
      Respelled (c :: text) (c :: written)
  | change {c : Char} {image text written : List Char} (cased : c ∉ caseless)
      (apart : ∀ mark ∈ caseless, mark ∉ image) (rest : Respelled text written) :
      Respelled (c :: text) (image ++ written)

theorem Respelled.notMem {text written : List Char} (spelled : Respelled text written)
    (fixed : image ∈ caseless) (absent : image ∉ text) : image ∉ written := by
  induction spelled with
  | nil => exact absent
  | keep c rest ih =>
      rw [List.mem_cons, not_or] at absent ⊢
      exact ⟨absent.1, ih absent.2⟩
  | change cased apart rest ih =>
      rw [List.mem_cons, not_or] at absent
      rw [List.mem_append, not_or]
      exact ⟨apart image fixed, ih absent.2⟩

/-- A map that makes caseless characters of themselves, and of themselves only, respells. -/
theorem Respelled.step {map : Char → List Char} {text written : List Char}
    (kept : ∀ mark ∈ caseless, map mark = [mark])
    (only : ∀ c, ∀ mark ∈ caseless, mark ∈ map c → c = mark) (c : Char)
    (rest : Respelled text written) : Respelled (c :: text) (map c ++ written) := by
  by_cases fixed : c ∈ caseless
  · rw [kept c fixed]
    exact .keep c rest
  · refine .change fixed ?_ rest
    intro mark marked member
    exact fixed (only c mark marked member ▸ marked)

theorem Respelled.upper {text written : List Char} (c : Char) (rest : Respelled text written) :
    Respelled (c :: text) (Unicode.upper c ++ written) :=
  .step (fun _ => upper_of_caseless) (fun _ _ => eq_of_mem_upper) c rest

theorem Respelled.lower {text written : List Char} (c : Char) (rest : Respelled text written) :
    Respelled (c :: text) (Unicode.lower c ++ written) :=
  .step (fun _ => lower_of_caseless) (fun _ _ => eq_of_mem_lower) c rest

theorem respelled_flatMap_lower (text : List Char) : Respelled text (text.flatMap lower) := by
  induction text with
  | nil => exact .nil
  | cons c rest ih => exact ih.lower c

theorem respelled_capitalize (text : List Char) : Respelled text (capitalize text) := by
  cases text with
  | nil => exact .nil
  | cons c rest => exact (respelled_flatMap_lower rest).upper c

theorem respelled_lowercaseAfter (before text : List Char) :
    Respelled text (lowercaseAfter before text) := by
  induction text generalizing before with
  | nil => exact .nil
  | cons c rest ih =>
      rw [lowercaseAfter]
      split
      · -- A capital sigma has two images, and neither is caseless.
        rename_i sigma
        subst sigma
        split <;> exact .change (by decide) (by simp [caseless]) (ih _)
      · exact (ih _).lower c

theorem respelled_lowercase (text : List Char) : Respelled text (lowercase text) :=
  respelled_lowercaseAfter [] text

variable {text : List Char}

theorem notMem_capitalize (fixed : image ∈ caseless) (absent : image ∉ text) :
    image ∉ capitalize text :=
  (respelled_capitalize text).notMem fixed absent

theorem notMem_lowercase (fixed : image ∈ caseless) (absent : image ∉ text) :
    image ∉ lowercase text :=
  (respelled_lowercase text).notMem fixed absent

/-! ## Lengths -/

theorem lowerExpansions_ne_nil : ∀ entry ∈ lowerExpansions, entry.2 ≠ [] := by
  decide

theorem lower_ne_nil (c : Char) : lower c ≠ [] := by
  unfold lower
  split
  · exact List.cons_ne_nil _ _
  · unfold mapCode
    split
    · rename_i found
      exact mt List.map_eq_nil_iff.1
        (lowerExpansions_ne_nil _ (List.mem_of_find?_eq_some found))
    · split <;> exact List.cons_ne_nil _ _

/-- What stands around a character has no influence on the length of its lower case. -/
theorem length_lowercaseAfter (before text : List Char) :
    (lowercaseAfter before text).length = (text.flatMap lower).length := by
  induction text generalizing before with
  | nil => rfl
  | cons c rest ih =>
      rw [lowercaseAfter, List.length_append, ih, List.flatMap_cons, List.length_append]
      congr 1
      split
      · rename_i sigma
        subst sigma
        have single : (lower 'Σ').length = 1 := by decide +kernel
        split <;> exact single.symm
      · rfl

theorem length_lowercase_append (first second : List Char) :
    (lowercase (first ++ second)).length =
      (lowercase first).length + (lowercase second).length := by
  simp only [lowercase, length_lowercaseAfter, List.flatMap_append, List.length_append]

/-- No character is lost in lower case. -/
theorem eq_nil_of_lowercase (empty : (lowercase text).length = 0) : text = [] := by
  cases text with
  | nil => rfl
  | cons c rest =>
      rw [lowercase, length_lowercaseAfter, List.length_eq_zero_iff, List.flatMap_cons,
        List.append_eq_nil_iff] at empty
      exact absurd empty.1 (lower_ne_nil c)

/-! ## ASCII -/

theorem lowercaseAfter_of_ascii {before : List Char} (ascii : ∀ c ∈ text, c.toNat < 128) :
    lowercaseAfter before text = text.map Char.toLower := by
  induction text generalizing before with
  | nil => rfl
  | cons c rest ih =>
      rw [List.forall_mem_cons] at ascii
      have other : c ≠ 'Σ' := by
        rintro rfl
        exact absurd ascii.1 (by decide)
      rw [lowercaseAfter, if_neg other, lower_of_ascii ascii.1, ih ascii.2, List.singleton_append,
        List.map_cons]

/-- On ASCII the lower case of a text is that of its characters. -/
theorem lowercase_of_ascii (ascii : ∀ c ∈ text, c.toNat < 128) :
    lowercase text = text.map Char.toLower :=
  lowercaseAfter_of_ascii ascii

/-- On ASCII a word is capitalized character by character. -/
theorem capitalize_of_ascii {rest : List Char} (ascii : ∀ d ∈ c :: rest, d.toNat < 128) :
    capitalize (c :: rest) = c.toUpper :: rest.map Char.toLower := by
  rw [List.forall_mem_cons] at ascii
  have others : rest.flatMap lower = rest.map Char.toLower := by
    rw [List.map_eq_flatMap, List.flatMap_def, List.flatMap_def,
      List.map_congr_left fun d member => lower_of_ascii (ascii.2 d member)]
  rw [capitalize, upper_of_ascii ascii.1, others, List.singleton_append]

end InputDocs.Unicode
