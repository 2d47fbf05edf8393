/-!
# Binary floating point

The non-negative finite numbers of the 64-bit binary format, as an integer times a
power of two, and the rounding of ratios to them.

Main definitions:

- {lit}`Binary.ofRatio?`: the number nearest to a ratio, a tie going to the even
  integer; there is none beyond the largest number.
- {lit}`Binary.scale?`: multiplication by a power of ten.
-/

namespace Memberwise.Decimal

/-- The number {lit}`significand * 2 ^ exponent`.  The significand has 53 bits,
unless the exponent is the smallest one. -/
structure Binary where
  significand : Nat
  exponent : Int
deriving DecidableEq, Repr

namespace Binary

/-! ## Rounding -/

/-- The exponent of the smallest numbers. -/
def minExponent : Int := -1074

/-- The exponent of the largest numbers. -/
def maxExponent : Int := 971

/-- Two to a power. -/
def twoTo (power : Nat) : Nat :=
  1 <<< power

/-- Ten to a power. -/
def tenTo (power : Nat) : Nat :=
  Nat.pow 10 power

/-- Zero. -/
def zero : Binary := ⟨0, minExponent⟩

/-- The quotient of two numbers, rounded to the nearest integer; a tie goes to the
even one. -/
def divRound (numerator denominator : Nat) : Nat :=
  let quotient := numerator / denominator
  let twice := 2 * (numerator % denominator)
  if denominator < twice ∨ (twice = denominator ∧ quotient % 2 = 1) then quotient + 1
  else quotient

/-- The ratio {lit}`numerator / (denominator * 2 ^ exponent)`, rounded to an
integer by the given division. -/
def scaled (divide : Nat → Nat → Nat) (numerator denominator : Nat) (exponent : Int) :
    Nat :=
  divide (numerator <<< (-exponent).toNat) (denominator <<< exponent.toNat)

/-- The number nearest to a ratio; none beyond the largest number. -/
def ofRatio? (numerator denominator : Nat) : Option Binary :=
  if numerator = 0 then some zero
  else
    let estimate := max minExponent
      ((numerator.log2 : Int) - (denominator.log2 : Int) - 53)
    let exponent :=
      if scaled (· / ·) numerator denominator estimate < twoTo 53 then estimate
      else estimate + 1
    let significand := scaled divRound numerator denominator exponent
    let rounded : Binary :=
      if significand = twoTo 53 then ⟨twoTo 52, exponent + 1⟩ else ⟨significand, exponent⟩
    if maxExponent < rounded.exponent then none else some rounded

/-! ## Arithmetic -/

/-- The product of two numbers. -/
def mul? (left right : Binary) : Option Binary :=
  let exponent := left.exponent + right.exponent
  let significand := left.significand * right.significand
  ofRatio? (significand <<< exponent.toNat) (twoTo (-exponent).toNat)

/-- The quotient of two numbers. -/
def div? (left right : Binary) : Option Binary :=
  let exponent := left.exponent - right.exponent
  ofRatio? (left.significand <<< exponent.toNat)
    (right.significand <<< (-exponent).toNat)

/-- The largest power of ten that is a number. -/
def maxPowerOfTen : Nat := 308

/-- The number nearest to a power of ten. -/
def powerOfTen? (power : Nat) : Option Binary :=
  ofRatio? (tenTo power) 1

/-- Divides a number by a power of ten. -/
def divPowerOfTen? (number : Binary) (power : Nat) : Option Binary := do
  number.div? (← powerOfTen? power)

/-- Multiplies a number by a power of ten, rounding once for every power that is a
number itself; none beyond the largest number.  A number that has been divided by
the largest power twice is zero. -/
def scale? (number : Binary) : Int → Option Binary
  | .ofNat power =>
      if power ≤ maxPowerOfTen then do number.mul? (← powerOfTen? power)
      else if number.significand = 0 then some number
      else none
  | .negSucc power =>
      if power + 1 ≤ maxPowerOfTen then number.divPowerOfTen? (power + 1)
      else do
        let smaller ← number.divPowerOfTen? maxPowerOfTen
        smaller.divPowerOfTen? (min maxPowerOfTen (power + 1 - maxPowerOfTen))

end Binary

end Memberwise.Decimal
