import InputDocs.Unicode.Alphanumeric
import InputDocs.Unicode.Blank
import InputDocs.Unicode.Case

/-!
# Render.Link -- anchors and links in Markdown

A heading gets an anchor made of its letters and digits in lower case, with hyphens for blanks
(`headingAnchor`).

The target of a reference to something else is turned into a link in the first way that applies
(`seeLink`): text that holds a link already stays; addresses in it become links of their own; a
relative path links to itself; the name of a type links to the heading of its table; any other
text stays.
-/

namespace InputDocs.Render

set_option autoImplicit false

/-! ## Anchors -/

/-- What a character of a heading leaves in the anchor. -/
def anchorChar (c : Char) : Option Char :=
  if c = ' ' then some '-'
  else if Unicode.isAlphanumeric c || c = '-' || c = '_' then some c
  else none

/-- The anchor of a heading. -/
def headingAnchor (heading : String) : String :=
  String.ofList ((Unicode.lowercase (Unicode.trim heading.toList)).filterMap anchorChar)

/-! ## Links -/

/-- Whether a label that has been opened is closed and followed by a target in parentheses. -/
def labelCloses (text : List Char) : Bool :=
  match text.dropWhile (· ≠ ']') with
  | _ :: '(' :: rest => ')' ∈ rest
  | _ => false

/-- Whether the text holds a link: a label in brackets and then a target in parentheses. -/
def holdsLink : List Char → Bool
  | [] => false
  | c :: rest => (c = '[' && labelCloses rest) || holdsLink rest

/-- Whether the character ends an address. -/
def endsAddress (c : Char) : Bool := Unicode.isBlank c || c = '<' || c = '>'

/-- Whether an address begins the text: the scheme and at least one more character. -/
def startsAddress (text : List Char) : Bool :=
  ["http://".toList, "https://".toList].any fun scheme =>
    scheme.isPrefixOf text && (text.drop scheme.length).head?.any fun c => !endsAddress c

/-- Whether an address begins anywhere in the text. -/
def holdsAddress : List Char → Bool
  | [] => false
  | c :: rest => startsAddress (c :: rest) || holdsAddress rest

/-- The text with angle brackets around its addresses; `inside` says whether one is open. -/
def bracketAddresses (inside : Bool) : List Char → List Char
  | [] => if inside then ['>'] else []
  | c :: rest =>
    if inside then
      if endsAddress c then '>' :: c :: bracketAddresses false rest
      else c :: bracketAddresses true rest
    else if startsAddress (c :: rest) then '<' :: c :: bracketAddresses true rest
    else c :: bracketAddresses false rest

/-- Whether the text is a path from here, from above or from the root. -/
def isPath (text : List Char) : Bool :=
  ["./".toList, "../".toList, "/".toList].any fun start => start.isPrefixOf text

/-- Whether the text is the name of a type: a capital letter, then letters and digits. -/
def isTypeName : List Char → Bool
  | [] => false
  | c :: rest => c.isUpper && rest.all Char.isAlphanum

/-- A reference to something else as inline Markdown. -/
def seeLink (target : String) : String :=
  let text := target.toList
  if holdsLink text then target
  else if holdsAddress text then String.ofList (bracketAddresses false text)
  else if isPath text then "[" ++ target ++ "](" ++ target ++ ")"
  else if isTypeName text then "[" ++ target ++ "](#" ++ headingAnchor target ++ ")"
  else target

end InputDocs.Render
