/-!
# Text.Utf8 -- text from bytes

Bytes are text if they are well-formed UTF-8 (`String.fromUTF8?`). To show bytes that are not,
`decodeLossy` puts the replacement character in the place of each ill-formed piece: of each
longest run of bytes that begins a character and breaks off, and of each other byte that begins
none.
-/

namespace InputDocs.Text

set_option autoImplicit false

/-- The range of the second byte of a character and the number of bytes after it, by the first
byte. -/
def sequence? (first : UInt8) : Option (UInt8 × UInt8 × Nat) :=
  if 0xC2 ≤ first ∧ first ≤ 0xDF then some (0x80, 0xBF, 0)
  else if first = 0xE0 then some (0xA0, 0xBF, 1)
  else if first = 0xED then some (0x80, 0x9F, 1)
  else if 0xE1 ≤ first ∧ first ≤ 0xEF then some (0x80, 0xBF, 1)
  else if first = 0xF0 then some (0x90, 0xBF, 2)
  else if 0xF1 ≤ first ∧ first ≤ 0xF3 then some (0x80, 0xBF, 2)
  else if first = 0xF4 then some (0x80, 0x8F, 2)
  else none

/-- Whether the byte goes on with a character. -/
def isContinuation (byte : UInt8) : Bool := 0x80 ≤ byte && byte ≤ 0xBF

/-- A code point with the six bits of one more byte. -/
def shiftIn (code : Nat) (byte : UInt8) : Nat := code * 64 + (byte.toNat - 0x80)

/-- The character whose bytes come first, with the number of bytes after its first; or nothing,
with the number of bytes after the first that belong to the ill-formed piece. -/
def firstChar (first : UInt8) (rest : List UInt8) : Option Char × Nat :=
  if first < 0x80 then (some (Char.ofNat first.toNat), 0)
  else
    match sequence? first, rest with
    | some (low, high, more), second :: others =>
      if low ≤ second ∧ second ≤ high then
        let found := (others.take more).takeWhile isContinuation
        if found.length = more then
          let lead := first.toNat - (if more = 0 then 0xC0 else if more = 1 then 0xE0 else 0xF0)
          (some (Char.ofNat (found.foldl shiftIn (shiftIn lead second))), more + 1)
        else (none, found.length + 1)
      else (none, 0)
    | _, _ => (none, 0)

/-- The characters of bytes, ill-formed pieces replaced. -/
def decodeLossyList : List UInt8 → List Char
  | [] => []
  | first :: rest =>
    let (found, count) := firstChar first rest
    found.getD '\uFFFD' :: decodeLossyList (rest.drop count)
termination_by bytes => bytes.length
decreasing_by simp only [List.length_drop, List.length_cons]; omega

/-- The text of bytes, ill-formed pieces replaced. -/
def decodeLossy (bytes : ByteArray) : String :=
  match String.fromUTF8? bytes with
  | some text => text
  | none => String.ofList (decodeLossyList bytes.toList)

end InputDocs.Text
