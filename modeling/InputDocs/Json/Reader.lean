import InputDocs.Json

/-!
# Json.Reader -- reading values from a text

A reader takes what it needs from the beginning of a text and leaves the rest. It stops at the
first thing that cannot stand where it stands, and says which of three kinds of failure that is:
the text ends too early, it is no value at all, or it is a value of another kind than the one
asked for (`ReadError`). What comes after the first failure does not matter.

Numbers are read in one pass. Digits are collected into a significand for as long as it stays
below `2 ^ 64`; digits beyond that count only for their places. A number without point or
exponent that fits is whole; any other is a double, the significand rounded once and then
multiplied or divided once by the double nearest to the power of ten.

A value that is skipped is held to the grammar but not to the limits: numbers of any size,
surrogates on their own and nesting of any depth are let through.
-/

namespace InputDocs

set_option autoImplicit false

/-- Why a text cannot be read. -/
inductive ReadError where
  | endsEarly
  | malformed
  /-- A value of another kind than the one asked for. -/
  | mismatch
  deriving DecidableEq, Repr

/-- A computation that reads from the beginning of a text and leaves the rest. -/
abbrev Reader := StateT (List Char) (Except ReadError)

namespace Reader

/-! ## Characters -/

/-- White space between the parts of a value. -/
def isGap (c : Char) : Bool := c = ' ' || c = '\n' || c = '\t' || c = '\r'

/-- The next character, which stays. -/
def peek : Reader (Option Char) := do return (← get).head?

/-- The next character after white space, which stays. -/
def peekPastGap : Reader (Option Char) := do
  set ((← get).dropWhile isGap)
  peek

/-- Drop one character. -/
def skip : Reader Unit := modify (·.drop 1)

/-- Take the next character. -/
def next : Reader Char := do
  match ← get with
  | [] => throw .endsEarly
  | c :: rest =>
    set rest
    return c

/-- Take the rest of a word such as `null`. -/
def word : List Char → Reader Unit
  | [] => return ()
  | expected :: more => do
    if (← next) = expected then word more else throw .malformed

/-- Take the digits that come next. -/
def digits : Reader (List Char) := do
  let text ← get
  set (text.dropWhile Text.isDigit)
  return text.takeWhile Text.isDigit

/-! ## Numbers -/

/-- Collect digits while the significand stays below `2 ^ 64`; the others are left. -/
def collect (significand : Nat) : List Char → Nat × List Char
  | [] => (significand, [])
  | c :: rest =>
    let grown := 10 * significand + (c.toNat - 48)
    if grown < Nat.pow 2 64 then collect grown rest else (significand, c :: rest)

/-- The double nearest to a power of ten. -/
def powerOfTen (exponent : Nat) : Binary64 :=
  (Binary64.ofRatio (Nat.pow 10 exponent) 1).getD .zero

/-- The greatest power of ten that a double holds. -/
def greatestPower : Nat := 308

/-- Divide by a power of ten, by the greatest one until the rest is in reach. -/
def divideByPower (x : Binary64) (power : Nat) : Binary64 :=
  if power ≤ greatestPower then (x.div (powerOfTen power)).getD .zero
  else if x.significand = 0 then x
  else divideByPower ((x.div (powerOfTen greatestPower)).getD .zero) (power - greatestPower)
termination_by power
decreasing_by simp only [greatestPower] at *; omega

/-- The double for a significand and a power of ten. One that is too large is no number. -/
def toDouble (significand : Nat) (exponent : Int) : Reader Binary64 :=
  let whole := (Binary64.ofRatio significand 1).getD .zero
  if exponent < 0 then return divideByPower whole (-exponent).toNat
  else if exponent.toNat ≤ greatestPower then
    match whole.mul (powerOfTen exponent.toNat) with
    | some x => return x
    | none => throw .malformed
  else if significand = 0 then return .zero
  else throw .malformed

/-- The greatest exponent that is read as it stands. -/
def greatestExponent : Nat := Nat.pow 2 31 - 1

/-- The exponent after its `e`, and the number it belongs to. An exponent beyond all bounds makes
a number vanish or is an error. -/
def exponentPart (significand : Nat) (exponent : Int) : Reader Binary64 := do
  skip
  let sign ← peek
  if sign = some '+' ∨ sign = some '-' then skip
  let first ← next
  if Text.isDigit first then
    let written := Text.decimalValue (first :: (← digits))
    if written ≤ greatestExponent then
      toDouble significand (if sign = some '-' then exponent - written else exponent + written)
    else if significand ≠ 0 ∧ sign ≠ some '-' then throw .malformed
    else return .zero
  else throw .malformed

/-- What follows the digits and the fraction of a double. -/
def finishDouble (significand : Nat) (exponent : Int) : Reader Binary64 := do
  match ← peek with
  | some 'e' | some 'E' => exponentPart significand exponent
  | _ => toDouble significand exponent

/-- The fraction after its point, and the number it belongs to. -/
def fractionPart (significand : Nat) (exponent : Int) : Reader Binary64 := do
  skip
  let fraction ← digits
  if fraction = [] then
    throw (if (← peek).isNone then .endsEarly else .malformed)
  let (grown, beyond) := collect significand fraction
  finishDouble grown (exponent - (fraction.length - beyond.length : Nat))

/-- A number after its minus, if it has one. -/
def number (negative : Bool) : Reader Numeral := do
  let whole ← digits
  match whole with
  | [] => throw (if (← peek).isNone then .endsEarly else .malformed)
  | '0' :: _ :: _ => throw .malformed
  | _ =>
    let (significand, beyond) := collect 0 whole
    match ← peek with
    | some '.' => return .double negative (← fractionPart significand beyond.length)
    | some 'e' | some 'E' => return .double negative (← exponentPart significand beyond.length)
    | _ =>
      if beyond ≠ [] then return .double negative (← toDouble significand beyond.length)
      else if !negative then return .whole significand
      else if significand = 0 ∨ Nat.pow 2 63 < significand then
        return .double true (← toDouble significand 0)
      else return .whole (-significand)

/-- Skip a number after its minus. The end of the text is no digit. -/
def skipNumber : Reader Unit := do
  match ← digits with
  | [] => throw .malformed
  | '0' :: _ :: _ => throw .malformed
  | _ =>
    if (← peek) = some '.' then
      skip
      if (← digits) = [] then throw .malformed
    if (← peek) = some 'e' ∨ (← peek) = some 'E' then
      skip
      if (← peek) = some '+' ∨ (← peek) = some '-' then skip
      if (← digits) = [] then throw .malformed

/-! ## Strings -/

/-- Four hexadecimal digits. The text must go on for four bytes, whatever they are. -/
def hexUnit : Reader Nat := do
  match ← get with
  | a :: b :: c :: d :: rest =>
    match Text.hexValue? [a, b, c, d] with
    | some unit =>
      set rest
      return unit
    | none => throw .malformed
  | short =>
    let bytes := (short.map Char.utf8Size).foldl (· + ·) 0
    throw (if bytes < 4 then .endsEarly else .malformed)

/-- The character of a unit after `\u`. A leading surrogate needs a trailing one after it, and
one that is skipped need not make sense. -/
def unicodeEscape (strict : Bool) : Reader Char := do
  let unit ← hexUnit
  if !strict then return ' '
  if 0xDC00 ≤ unit ∧ unit ≤ 0xDFFF then throw .malformed
  if unit < 0xD800 ∨ 0xDBFF < unit then return Char.ofNat unit
  if (← next) ≠ '\\' then throw .malformed
  if (← next) ≠ 'u' then throw .malformed
  let trail ← hexUnit
  if trail < 0xDC00 ∨ 0xDFFF < trail then throw .malformed
  return Char.ofNat (0x10000 + (unit - 0xD800) * 0x400 + (trail - 0xDC00))

/-- The character of an escape after its backslash. -/
def escape (strict : Bool) : Reader Char := do
  match ← next with
  | '"' => return '"'
  | '\\' => return '\\'
  | '/' => return '/'
  | 'b' => return Char.ofNat 8
  | 'f' => return Char.ofNat 12
  | 'n' => return '\n'
  | 'r' => return '\r'
  | 't' => return '\t'
  | 'u' => unicodeEscape strict
  | _ => throw .malformed

/-- The characters of a string up to its closing quote, put before those read so far, which are
in reverse. Every turn takes at least one character, so `fuel` is the length of the text. -/
def stringFrom (strict : Bool) : Nat → List Char → Reader String
  | 0, _ => throw .endsEarly
  | fuel + 1, taken => do
    match ← next with
    | '"' => return String.ofList taken.reverse
    | '\\' => stringFrom strict fuel ((← escape strict) :: taken)
    | c => if c.toNat < 32 then throw .malformed else stringFrom strict fuel (c :: taken)

/-- A string after its opening quote. -/
def string (strict : Bool := true) : Reader String := do
  stringFrom strict ((← get).length + 1) []

/-! ## Arrays and objects -/

/-- Whether an array has another item. The first one stands by itself, every other one after a
comma. -/
def hasItem (first : Bool) : Reader Bool := do
  match ← peekPastGap with
  | none => throw .endsEarly
  | some ']' => return false
  | some c =>
    if first then return true
    if c ≠ ',' then throw .malformed
    skip
    match ← peekPastGap with
    | none => throw .endsEarly
    | some ']' => throw .malformed
    | some _ => return true

/-- The next key of an object, if there is one. -/
def nextKey (first strict : Bool) : Reader (Option String) := do
  match ← peekPastGap with
  | none => throw .endsEarly
  | some '\x7d' => return none
  | some c =>
    if !first then
      if c ≠ ',' then throw .malformed
      skip
    match ← peekPastGap with
    | none => throw .endsEarly
    | some '"' =>
      skip
      return some (← string strict)
    | some _ => throw .malformed

/-- The colon after a key. -/
def colon : Reader Unit := do
  match ← peekPastGap with
  | none => throw .endsEarly
  | some ':' => skip
  | some _ => throw .malformed

/-! ## Values -/

mutual

/-- A value. `room` is how many more arrays and objects may open, plus one; a value that is
skipped has room for all. -/
def valueFrom (strict : Bool) : Nat → Nat → Reader Json
  | 0, _ => throw .endsEarly
  | fuel + 1, room => do
    match ← peekPastGap with
    | none => throw .endsEarly
    | some 'n' =>
      word "null".toList
      return .null
    | some 't' =>
      word "true".toList
      return .bool true
    | some 'f' =>
      word "false".toList
      return .bool false
    | some '"' =>
      skip
      return .string (← string strict)
    | some '[' =>
      if room ≤ 1 then throw .malformed
      skip
      return .array (← itemsFrom strict fuel (room - 1) true)
    | some '\x7b' =>
      if room ≤ 1 then throw .malformed
      skip
      return .object (← entriesFrom strict fuel (room - 1) true)
    | some c =>
      if c = '-' ∨ Text.isDigit c then
        if c = '-' then skip
        if strict then return .number (← number (c = '-'))
        skipNumber
        return .null
      else throw .malformed

/-- The items of an array up to its closing bracket. -/
def itemsFrom (strict : Bool) : Nat → Nat → Bool → Reader (List Json)
  | 0, _, _ => throw .endsEarly
  | fuel + 1, room, first => do
    if ← hasItem first then
      let item ← valueFrom strict fuel room
      return item :: (← itemsFrom strict fuel room false)
    skip
    return []

/-- The entries of an object up to its closing brace. -/
def entriesFrom (strict : Bool) : Nat → Nat → Bool → Reader (List (String × Json))
  | 0, _, _ => throw .endsEarly
  | fuel + 1, room, first => do
    match ← nextKey first strict with
    | some key =>
      colon
      let value ← valueFrom strict fuel room
      return (key, value) :: (← entriesFrom strict fuel room false)
    | none =>
      skip
      return []

end

/-- How many arrays and objects may be open at once, plus one. -/
def nestingRoom : Nat := 128

/-- A value inside `depth` open arrays and objects. Every turn takes a character or closes what
an earlier one opened, so twice the length of the text is fuel enough. -/
def value (depth : Nat) : Reader Json := do
  valueFrom true (2 * (← get).length + 2) (nestingRoom - depth)

/-- Read a value for its end only. -/
def skipValue : Reader Unit := do
  let fuel := 2 * (← get).length + 2
  let _ ← valueFrom false fuel fuel

/-- The failure of a value that stands where another kind is asked for: a literal or a number or
a string that is itself broken is reported as such. -/
def mismatch {α : Type} : Reader α := do
  match ← peekPastGap with
  | none => throw .endsEarly
  | some 'n' => word "null".toList
  | some 't' => word "true".toList
  | some 'f' => word "false".toList
  | some '"' =>
    skip
    let _ ← string
  | some '[' | some '\x7b' => pure ()
  | some c =>
    if c = '-' then
      skip
      let _ ← number true
    else if Text.isDigit c then
      let _ ← number false
    else throw .malformed
  throw .mismatch

/-- A string, and nothing else. -/
def stringValue : Reader String := do
  match ← peekPastGap with
  | some '"' =>
    skip
    string
  | _ => mismatch

/-- A truth value, and nothing else. -/
def boolValue : Reader Bool := do
  match ← peekPastGap with
  | some 't' =>
    word "true".toList
    return true
  | some 'f' =>
    word "false".toList
    return false
  | _ => mismatch

/-- `null`, or what another reader reads. -/
def orNull {α : Type} (reader : Reader α) : Reader (Option α) := do
  match ← peekPastGap with
  | some 'n' =>
    word "null".toList
    return none
  | _ => return some (← reader)

end Reader

end InputDocs
