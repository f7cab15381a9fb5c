/-!
# Text.Digit -- digits as numbers

`hexDigit?` reads one hexadecimal digit of either case, `hexValue?` a whole nonempty run of them,
`decimalValue` a run of decimal digits, and `lowerHex` writes a number back with small letters.
-/

namespace InputDocs.Text

set_option autoImplicit false

/-- Whether the character is one of `0` to `9`. -/
def isDigit (c : Char) : Bool := '0' ≤ c && c ≤ '9'

/-- The value of a hexadecimal digit. -/
def hexDigit? (c : Char) : Option Nat :=
  if '0' ≤ c ∧ c ≤ '9' then some (c.toNat - 48)
  else if 'a' ≤ c ∧ c ≤ 'f' then some (c.toNat - 87)
  else if 'A' ≤ c ∧ c ≤ 'F' then some (c.toNat - 55)
  else none

/-- The value of a nonempty run of hexadecimal digits. -/
def hexValue? : List Char → Option Nat
  | [] => none
  | digits => digits.foldl (fun value c => do return 16 * (← value) + (← hexDigit? c)) (some 0)

/-- The value of a run of decimal digits. -/
def decimalValue (digits : List Char) : Nat :=
  digits.foldl (fun value c => 10 * value + (c.toNat - 48)) 0

/-- The hexadecimal digit of a number below sixteen, in lower case. -/
def lowerHex (n : Nat) : Char :=
  if n < 10 then Char.ofNat (48 + n) else Char.ofNat (87 + n)

end InputDocs.Text
