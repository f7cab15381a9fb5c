/-!
# Binary64 -- double precision without floating point

A nonnegative double is a significand below `2 ^ 53` and a power of two. `Binary64.ofRatio` rounds
a ratio of natural numbers to the nearest double, a tie going to the even significand, so that
products and quotients of doubles are exact ratios rounded once. A ratio too large for a double
has none.

`Binary64.shortest` writes a double with the fewest decimal digits that read back as it: for one
digit, two, and so on it looks at the two neighbours of the double on that decimal grid, and takes
the first grid on which one of them lies in the interval of numbers that round to the double, of
two hits the nearer.
-/

namespace InputDocs

set_option autoImplicit false

/-- The double `significand * 2 ^ exponent`. -/
structure Binary64 where
  significand : Nat
  exponent : Int
  deriving DecidableEq, Repr

namespace Binary64

/-- The least power of two of a double. -/
def leastExponent : Int := -1074

/-- The greatest power of two of a double. -/
def greatestExponent : Int := 971

/-- The double zero. -/
def zero : Binary64 := ⟨0, leastExponent⟩

/-- The quotient rounded to a natural number, a tie going to the even one. -/
def roundDiv (num den : Nat) : Nat :=
  let quotient := num / den
  let twice := 2 * (num % den)
  if twice < den ∨ (twice = den ∧ quotient % 2 = 0) then quotient else quotient + 1

/-- The power of two at or below a positive ratio. -/
def floorLog (num den : Nat) : Int :=
  let guess : Int := (Nat.log2 num : Int) - Nat.log2 den
  if num * Nat.pow 2 (-guess).toNat < den * Nat.pow 2 guess.toNat then guess - 1 else guess

/-- The double nearest to a ratio, or nothing if it is too large. -/
def ofRatio (num den : Nat) : Option Binary64 :=
  if num = 0 then some zero
  else
    let exponent := max (floorLog num den - 52) leastExponent
    let significand :=
      roundDiv (num * Nat.pow 2 (-exponent).toNat) (den * Nat.pow 2 exponent.toNat)
    let rounded : Binary64 :=
      if significand = Nat.pow 2 53 then ⟨Nat.pow 2 52, exponent + 1⟩ else ⟨significand, exponent⟩
    if rounded.exponent ≤ greatestExponent then some rounded else none

/-- The numerator of a double as a ratio. -/
def num (x : Binary64) : Nat := x.significand * Nat.pow 2 x.exponent.toNat

/-- The denominator of a double as a ratio. -/
def den (x : Binary64) : Nat := Nat.pow 2 (-x.exponent).toNat

/-- The product, rounded. -/
def mul (x y : Binary64) : Option Binary64 := ofRatio (x.num * y.num) (x.den * y.den)

/-- The quotient by a positive double, rounded. -/
def div (x y : Binary64) : Option Binary64 := ofRatio (x.num * y.den) (x.den * y.num)

/-! ## Decimal digits -/

/-- A decimal `digits * 10 ^ exponent`. -/
structure Decimal where
  digits : Nat
  exponent : Int
  deriving DecidableEq, Repr

/-- Whether `num / den` is below `10 ^ exponent`. -/
def belowPower (num den : Nat) (exponent : Int) : Bool :=
  num * Nat.pow 10 (-exponent).toNat < den * Nat.pow 10 exponent.toNat

/-- The power of ten at or below a positive ratio. -/
def floorLogTen (num den : Nat) : Int :=
  let guess : Int := floorLog num den * 30103 / 100000
  if belowPower num den guess then guess - 1
  else if belowPower num den (guess + 1) then guess
  else guess + 1

/-- Twice the ends of the interval of numbers that round to a double, over `2 * den`. Below a
power of two the grid is twice as fine, so the lower end is nearer there. -/
def interval (x : Binary64) : Nat × Nat :=
  let step := Nat.pow 2 x.exponent.toNat
  let below := if x.significand = Nat.pow 2 52 ∧ leastExponent < x.exponent then step else 2 * step
  (4 * x.num - below, 4 * x.num + 2 * step)

/-- Whether `digits * 10 ^ exponent` rounds to the double; the ends do if its significand is
even. -/
def readsBack (x : Binary64) (candidate : Decimal) : Bool :=
  let value := 4 * candidate.digits * Nat.pow 10 candidate.exponent.toNat * x.den
  let scale := Nat.pow 10 (-candidate.exponent).toNat
  let (low, high) := x.interval
  if x.significand % 2 = 0 then low * scale ≤ value && value ≤ high * scale
  else low * scale < value && value < high * scale

/-- The decimal with `count` digits that is nearest to the double among its two neighbours on
that grid and reads back as it. -/
def withDigits (x : Binary64) (count : Nat) : Option Decimal :=
  let exponent := floorLogTen x.num x.den - (count - 1 : Int)
  let num := x.num * Nat.pow 10 (-exponent).toNat
  let den := x.den * Nat.pow 10 exponent.toNat
  let low := num / den
  let nearest := roundDiv num den
  let other := if nearest = low then low + 1 else low
  if x.readsBack ⟨nearest, exponent⟩ then some ⟨nearest, exponent⟩
  else if x.readsBack ⟨other, exponent⟩ then some ⟨other, exponent⟩
  else none

/-- The fewest digits that read back as the double. Seventeen always do. -/
def shortest (x : Binary64) : Decimal :=
  if x.significand = 0 then ⟨0, 0⟩
  else ((List.range 17).findSome? fun fewer => x.withDigits (fewer + 1)).getD ⟨0, 0⟩

end Binary64

end InputDocs
