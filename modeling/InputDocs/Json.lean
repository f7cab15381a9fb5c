import InputDocs.Binary64
import InputDocs.Text.Digit

/-!
# Json -- values of a data format and their texts

A value is written in two ways. `Json.compact` puts it on one line without blanks; `Json.pretty`
puts every item on a line of its own, two blanks further in than the line that opens its array or
object, and an empty array or object on no line of its own.

Inside a string, quotes, backslashes and control characters are escaped and everything else
stands for itself. A whole number is written by its digits; a double by the fewest digits that
read back, with a point, or with an exponent below `10 ^ -5` and from `10 ^ 16` on.
-/

namespace InputDocs

set_option autoImplicit false

/-- A number: whole, or a double with its sign. -/
inductive Numeral where
  | whole (value : Int)
  | double (negative : Bool) (magnitude : Binary64)
  deriving DecidableEq, Repr

/-- A value. An object keeps its entries in the order written. -/
inductive Json where
  | null
  | bool (value : Bool)
  | number (value : Numeral)
  | string (value : String)
  | array (items : List Json)
  | object (entries : List (String × Json))
  deriving Repr

namespace Numeral

/-- The decimal digits of a number. -/
def digits (n : Nat) : List Char := (toString n).toList

/-- Digits with their point after the first `whole` of them, at least one digit on each side. -/
def positional (digits : List Char) (whole : Int) : List Char :=
  if whole ≤ 0 then '0' :: '.' :: (List.replicate (-whole).toNat '0' ++ digits)
  else
    let count := whole.toNat
    if digits.length ≤ count then
      digits ++ List.replicate (count - digits.length) '0' ++ ['.', '0']
    else digits.take count ++ '.' :: digits.drop count

/-- Digits with the point after the first of them and a power of ten. -/
def scientific (digits : List Char) (exponent : Int) : List Char :=
  let fraction := if digits.length ≤ 1 then [] else '.' :: digits.drop 1
  let sign := if exponent < 0 then '-' else '+'
  digits.take 1 ++ fraction ++ 'e' :: sign :: Numeral.digits exponent.natAbs

/-- A decimal, positional from `10 ^ -5` to below `10 ^ 16`. -/
def decimalText (decimal : Binary64.Decimal) : List Char :=
  if decimal.digits = 0 then ['0', '.', '0']
  else
    let all := digits decimal.digits
    let significant := (all.reverse.dropWhile (· = '0')).reverse
    let exponent := decimal.exponent + all.length - 1
    if -5 ≤ exponent ∧ exponent < 16 then positional significant (exponent + 1)
    else scientific significant exponent

/-- The text of a number. -/
def text : Numeral → List Char
  | whole value => (toString value).toList
  | double negative magnitude =>
    (if negative then ['-'] else []) ++ decimalText magnitude.shortest

end Numeral

namespace Json

/-! ## Strings -/

/-- A character as it stands in a string. -/
def escapeChar (c : Char) : List Char :=
  if c = '"' then ['\\', '"']
  else if c = '\\' then ['\\', '\\']
  else if c = '\n' then ['\\', 'n']
  else if c = '\r' then ['\\', 'r']
  else if c = '\t' then ['\\', 't']
  else if c.toNat = 8 then ['\\', 'b']
  else if c.toNat = 12 then ['\\', 'f']
  else if c.toNat < 32 then
    ['\\', 'u', '0', '0', Text.lowerHex (c.toNat / 16), Text.lowerHex (c.toNat % 16)]
  else [c]

/-- A string in quotes. -/
def quote (s : String) : List Char :=
  '"' :: (s.toList.flatMap escapeChar ++ ['"'])

/-! ## Values -/

/-- The text of a value that holds no others. -/
def leafText : Json → List Char
  | null => "null".toList
  | bool true => "true".toList
  | bool false => "false".toList
  | number value => value.text
  | string value => quote value
  | array _ => "[]".toList
  | object _ => ['\x7b', '\x7d']

mutual

/-- A value on one line without blanks. -/
def compact : Json → List Char
  | array items => '[' :: (compactItems items ++ [']'])
  | object entries => '\x7b' :: (compactEntries entries ++ ['\x7d'])
  | leaf => leaf.leafText

/-- Items with commas between them. -/
def compactItems : List Json → List Char
  | [] => []
  | [only] => only.compact
  | first :: rest => first.compact ++ ',' :: compactItems rest

/-- Entries with commas between them. -/
def compactEntries : List (String × Json) → List Char
  | [] => []
  | [(key, value)] => quote key ++ ':' :: value.compact
  | (key, value) :: rest => quote key ++ ':' :: value.compact ++ ',' :: compactEntries rest

end

/-- The break before a line that stands `depth` levels in. -/
def lineBreak (depth : Nat) : List Char := '\n' :: List.replicate (2 * depth) ' '

mutual

/-- A value whose opening line stands `depth` levels in. -/
def prettyAt (depth : Nat) : Json → List Char
  | array (first :: rest) =>
    '[' :: (prettyItems (depth + 1) (first :: rest) ++ lineBreak depth ++ [']'])
  | object (first :: rest) =>
    '\x7b' :: (prettyEntries (depth + 1) (first :: rest) ++ lineBreak depth ++ ['\x7d'])
  | leaf => leaf.leafText

/-- Items on lines of their own, with commas between them. -/
def prettyItems (depth : Nat) : List Json → List Char
  | [] => []
  | [only] => lineBreak depth ++ only.prettyAt depth
  | first :: rest => lineBreak depth ++ first.prettyAt depth ++ ',' :: prettyItems depth rest

/-- Entries on lines of their own, with commas between them. -/
def prettyEntries (depth : Nat) : List (String × Json) → List Char
  | [] => []
  | [(key, value)] => lineBreak depth ++ quote key ++ ':' :: ' ' :: value.prettyAt depth
  | (key, value) :: rest =>
    lineBreak depth ++ quote key ++ ':' :: ' ' :: value.prettyAt depth ++
      ',' :: prettyEntries depth rest

end

/-- A value with an item to a line. -/
def pretty (value : Json) : String := String.ofList (value.prettyAt 0)

end Json

end InputDocs
