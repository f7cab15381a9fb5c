import InputDocs.Command.Arguments
import InputDocs.Proofs.Command.Directory

/-!
# Proofs.Command.Arguments -- what a command line that is read asks for

A command line is read word by word, and reading ends early at a word that asks for the summary of
the options. So a summary is given only if there is such a word (`exists_of_parse_help`). What is
read to the end is looked at as a whole: a document is not named beside an expression
(`readme_eq_none_of_parse`).
-/

namespace InputDocs.Command

set_option autoImplicit false

namespace Arguments

/-! ## Requests for help -/

/-- A word that asks for the summary of the options. -/
def AsksForHelp (word : String) : Prop := word = "--help" ∨ "-h".toList <+: word.toList

theorem asksForHelp_of_longWord {word : String} {text : List Char}
    (spelled : word.toList = '-' :: '-' :: text) (asks : longWord word text = .help none) :
    AsksForHelp word := by
  simp only [longWord] at asks
  split at asks
  · cases asks
  split at asks
  · cases asks
  split at asks
  · rename_i named
    -- There is no value, so the name is all of the text.
    cases after : text.dropWhile (· ≠ '=') with
    | cons mark value =>
        rw [after] at asks
        cases asks
    | nil =>
        have whole := List.takeWhile_append_dropWhile (p := (· ≠ '=')) (l := text)
        rw [after, List.append_nil] at whole
        rw [whole] at named
        refine .inl (String.toList_injective ?_)
        rw [spelled, ← String.toList_ofList (l := text), named]
        rfl
  · cases asks

theorem asksForHelp_of_ofText {word : String} (asks : Word.ofText word = .help none) :
    AsksForHelp word := by
  simp only [Word.ofText] at asks
  split at asks
  · cases asks
  · rename_i text _ spelled
    exact asksForHelp_of_longWord spelled asks
  · cases asks
  · rename_i c rest _ _ spelled
    simp only [shortWord] at asks
    split at asks
    · cases asks
    split at asks
    · rename_i isH
      refine .inr ⟨rest, ?_⟩
      rw [spelled, isH]
      rfl
    · cases asks
  · cases asks

/-- After `--` no word asks for help. -/
theorem readFiles_ne_help (arguments : Arguments) (words : List String) :
    readFiles arguments words ≠ .ok .help := by
  intro helped
  induction words generalizing arguments with
  | nil => cases helped
  | cons word rest ih =>
      obtain ⟨next, _, later⟩ := exists_of_bind_eq_ok helped
      exact ih next later

/-- Help is given only if a word asks for it. -/
theorem exists_of_readWords_help {arguments : Arguments} {waiting : Option Setting}
    {words : List String} (helped : readWords arguments waiting words = .ok .help) :
    ∃ word ∈ words, AsksForHelp word := by
  induction words generalizing arguments waiting with
  | nil => cases waiting <;> cases helped
  | cons word rest ih =>
      have later {next : Arguments} {waits : Option Setting}
          (helped : readWords next waits rest = .ok .help) :
          ∃ asking ∈ word :: rest, AsksForHelp asking := by
        obtain ⟨asking, among, asks⟩ := ih helped
        exact ⟨asking, List.mem_cons_of_mem _ among, asks⟩
      cases waiting with
      | some setting =>
          simp only [readWords] at helped
          split at helped
          · obtain ⟨next, _, helped⟩ := exists_of_bind_eq_ok helped
            exact later helped
          · cases helped
      | none =>
          simp only [readWords] at helped
          split at helped
          · exact absurd helped (readFiles_ne_help _ _)
          · obtain ⟨next, _, helped⟩ := exists_of_bind_eq_ok helped
            exact later helped
          · obtain ⟨next, _, helped⟩ := exists_of_bind_eq_ok helped
            exact later helped
          · exact later helped
          · split at helped
            · cases helped
            · exact later helped
          · rename_i asks
            exact ⟨word, List.mem_cons_self, asksForHelp_of_ofText asks⟩
          · cases helped
          · cases helped
          · cases helped

theorem exists_of_parse_help {words : List String} (helped : parse words = .ok .help) :
    ∃ word ∈ words, AsksForHelp word := by
  obtain ⟨reading, done, ends⟩ := exists_of_bind_eq_ok helped
  cases reading with
  | help => exact exists_of_readWords_help done
  | done arguments =>
      obtain ⟨checked, _, ends⟩ := exists_of_bind_eq_ok ends
      cases ends

/-! ## Arguments that fit together -/

/-- An expression excludes a document. -/
theorem readme_eq_none_of_parse {words : List String} {arguments : Arguments} {expr : String}
    (parsed : parse words = .ok (.done arguments)) (given : arguments.expr = some expr) :
    arguments.readme = none := by
  obtain ⟨reading, _, ends⟩ := exists_of_bind_eq_ok parsed
  cases reading with
  | help => cases ends
  | done unchecked =>
      obtain ⟨checked, fits, ends⟩ := exists_of_bind_eq_ok ends
      cases ends
      simp only [check] at fits
      split at fits
      · split at fits
        · cases fits
        · rename_i files
          cases fits
          have neither : arguments.file = none ∧ arguments.readme = none := by
            simpa using files
          exact neither.2
      · split at fits
        · cases fits
        · rename_i other _
          cases fits
          simp [given] at other

end Arguments

end InputDocs.Command
