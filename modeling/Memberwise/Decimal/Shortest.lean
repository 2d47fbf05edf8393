import Memberwise.Decimal.Binary

/-!
# Shortest decimal text

The decimal text of a binary floating point number: the fewest digits that are
read back as the same number, and of these the nearest to it.

Main definitions:

- {lit}`Binary.shortest`: the digits and the power of ten of the last one.
- {lit}`Binary.text`: the text, positional between five places after the point and
  sixteen before it, and scientific elsewhere.
-/

namespace Memberwise.Decimal.Binary

/-! ## The interval of a number -/

/-- The reals that are rounded to a number, as a range of multiples of
{lit}`2 ^ exponent`.  Both ends belong to it if {lit}`closed` holds. -/
structure Interval where
  low : Nat
  high : Nat
  exponent : Int
  closed : Bool

/-- The interval of a number.  Below a power of two the next number is half as far
away as above it. -/
def interval (number : Binary) : Interval :=
  let below := if number.significand = twoTo 52 ∧ minExponent < number.exponent then 1 else 2
  { low := 4 * number.significand - below
    high := 4 * number.significand + 2
    exponent := number.exponent - 2
    closed := number.significand % 2 = 0 }

/-- Compares {lit}`left * 10 ^ power` with {lit}`right * 2 ^ exponent`. -/
def compareScaled (left : Nat) (power : Int) (right : Nat) (exponent : Int) : Ordering :=
  compare (left * tenTo power.toNat * twoTo (-exponent).toNat)
    (right * twoTo exponent.toNat * tenTo (-power).toNat)

/-- Whether {lit}`digits * 10 ^ power` lies in an interval. -/
def Interval.contains (interval : Interval) (digits : Nat) (power : Int) : Bool :=
  let low := compareScaled digits power interval.low interval.exponent
  let high := compareScaled digits power interval.high interval.exponent
  (low == .gt || (interval.closed && low == .eq))
    && (high == .lt || (interval.closed && high == .eq))

/-! ## Digits -/

/-- The integer part of {lit}`number / 10 ^ power`. -/
def floorScaled (number : Binary) (power : Int) : Nat :=
  (number.significand * twoTo number.exponent.toNat * tenTo (-power).toNat)
    / (tenTo power.toNat * twoTo (-number.exponent).toNat)

/-- The power of ten of the first digit of a number, found by counting down. -/
def leadingPower (number : Binary) : Nat → Int → Int
  | 0, power => power
  | fuel + 1, power =>
      if number.floorScaled power = 0 then leadingPower number fuel (power - 1) else power

/-- The multiple of a power of ten that is read back as a number, if there is one:
the nearer one of its neighbours, and the even one of two equally near. -/
def onGrid? (number : Binary) (power : Int) : Option Nat :=
  let lower := number.floorScaled power
  let upper := lower + 1
  let interval := number.interval
  match interval.contains lower power, interval.contains upper power with
  | false, false => none
  | true, false => some lower
  | false, true => some upper
  | true, true =>
      match compareScaled (lower + upper) power (2 * number.significand) number.exponent with
      | .gt => some lower
      | .lt => some upper
      | .eq => if lower % 2 = 0 then some lower else some upper

/-- Searches ever finer powers of ten for a multiple that is read back. -/
def search (number : Binary) : Nat → Int → Nat × Int
  | 0, power => (number.floorScaled power, power)
  | fuel + 1, power =>
      match number.onGrid? power with
      | some digits => (digits, power)
      | none => search number fuel (power - 1)

/-- The fewest digits that are read back as a number, and the power of ten of the
last one.  The next power above the number is tried too, since the number may lie
just below it. -/
def shortest (number : Binary) : Nat × Int :=
  number.search 18 (number.leadingPower 700 310 + 1)

/-! ## Text -/

/-- The text of the digits of a number that is not zero. -/
def digitsText (digits : List Char) (power : Int) : List Char :=
  let point : Int := digits.length + power
  if 0 ≤ power ∧ point ≤ 16 then
    digits ++ List.replicate power.toNat '0' ++ ['.', '0']
  else if 0 < point ∧ point ≤ 16 then
    digits.take point.toNat ++ '.' :: digits.drop point.toNat
  else if -5 < point ∧ point ≤ 0 then
    '0' :: '.' :: (List.replicate (-point).toNat '0' ++ digits)
  else
    let mantissa := match digits with
      | first :: second :: rest => first :: '.' :: second :: rest
      | few => few
    let sign := if 0 < point then '+' else '-'
    mantissa ++ 'e' :: sign :: (Nat.toDigits 10 (point - 1).natAbs)

/-- The shortest text of a number, with a point or an exponent. -/
def text (number : Binary) : String :=
  if number.significand = 0 then "0.0"
  else
    let (digits, power) := number.shortest
    String.ofList (digitsText (Nat.toDigits 10 digits) power)

end Memberwise.Decimal.Binary
