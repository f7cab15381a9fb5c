/-!
# Text.Find -- the last place of a text inside another

`splitLast` cuts a text around the last occurrence of another, and the parts put together again
with what was found give the text back (`splitLast_append`). The empty text occurs last at the
end.
-/

namespace InputDocs.Text

set_option autoImplicit false

/-- What stands before and after the last occurrence of `part`. -/
def splitLast (part : List Char) : List Char → Option (List Char × List Char)
  | [] => if part = [] then some ([], []) else none
  | c :: rest =>
    match splitLast part rest with
    | some (before, after) => some (c :: before, after)
    | none =>
      if part.isPrefixOf (c :: rest) then some ([], (c :: rest).drop part.length) else none

/-- The parts around an occurrence and the occurrence make up the text. -/
theorem splitLast_append {part text before after : List Char}
    (h : splitLast part text = some (before, after)) : before ++ part ++ after = text := by
  induction text generalizing before after with
  | nil =>
    unfold splitLast at h
    split at h <;> cases h
    simp_all
  | cons c rest ih =>
    unfold splitLast at h
    split at h
    · rename_i found
      cases h
      simpa using ih found
    · split at h <;> cases h
      rename_i here
      obtain ⟨tail, whole⟩ := List.isPrefixOf_iff_prefix.1 here
      simp [← whole]

end InputDocs.Text
