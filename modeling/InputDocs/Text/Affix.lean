/-!
# Text.Affix -- beginnings and ends of texts

`stripStart` and `stripEnd` take a mark off one end of a text, once, if it stands there.
-/

namespace InputDocs.Text

set_option autoImplicit false

/-- The text without `mark` at its beginning. -/
def stripStart (mark text : List Char) : List Char :=
  if mark.isPrefixOf text then text.drop mark.length else text

/-- The text without `mark` at its end. -/
def stripEnd (mark text : List Char) : List Char :=
  if mark.isSuffixOf text then text.take (text.length - mark.length) else text

@[simp] theorem stripStart_append (mark text : List Char) :
    stripStart mark (mark ++ text) = text := by
  simp [stripStart, List.isPrefixOf_iff_prefix]

@[simp] theorem stripEnd_append (mark text : List Char) :
    stripEnd mark (text ++ mark) = text := by
  simp [stripEnd, List.isSuffixOf_iff_suffix]

end InputDocs.Text
