/-!
# Position -- places in a text

A place is given three ways at once: the number of UTF-8 bytes before it, its line and its column.
Lines and columns count from one, columns count characters, and only a line feed ends a line.

`Position.advance` walks a place over a piece of text, so that the place after `a ++ b` is reached
by walking over `a` and then over `b` (`advance_append`). `Position.after` is the place after a
whole text.
-/

namespace InputDocs

set_option autoImplicit false

/-- A place in a text. -/
structure Position where
  /-- UTF-8 bytes before the place. -/
  offset : Nat
  line : Nat
  column : Nat
  deriving DecidableEq, Repr

namespace Position

/-- The place before the first character. -/
def start : Position := ⟨0, 1, 1⟩

/-- The place one character further on. -/
def step (place : Position) (c : Char) : Position :=
  if c = '\n' then ⟨place.offset + c.utf8Size, place.line + 1, 1⟩
  else ⟨place.offset + c.utf8Size, place.line, place.column + 1⟩

/-- The place after a piece of text that begins at `place`. -/
def advance (place : Position) (text : List Char) : Position :=
  text.foldl step place

/-- The place after a whole text. -/
def after (text : List Char) : Position := start.advance text

/-- Line and column, as messages show a place. -/
def text (place : Position) : String :=
  toString place.line ++ ":" ++ toString place.column

@[simp] theorem advance_nil (place : Position) : place.advance [] = place := rfl

@[simp] theorem advance_cons (place : Position) (c : Char) (text : List Char) :
    place.advance (c :: text) = (place.step c).advance text := rfl

theorem advance_append (place : Position) (a b : List Char) :
    place.advance (a ++ b) = (place.advance a).advance b := by
  simp [advance, List.foldl_append]

end Position

end InputDocs
