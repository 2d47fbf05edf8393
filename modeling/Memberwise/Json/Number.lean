import Memberwise.Json.Reader

/-!
# Numbers in documents

A number is first cut into its parts by the grammar and then evaluated.  A number
that is skipped is only cut.

Main definitions:

- {lit}`Numeral.scan`: the parts of a number.
- {lit}`Numeral.evaluate`: its value, an integer of 64 bits where it is one and a
  floating point number elsewhere.
-/

namespace Memberwise.Json

/-! ## Parts -/

/-- The exponent of a number: its sign and its digits. -/
structure ExponentPart where
  isNegative : Bool
  digits : List Char
deriving DecidableEq, Repr

/-- A number as it is written. -/
structure Numeral where
  isNegative : Bool
  /-- The digits before the point. -/
  whole : List Char
  /-- The digits behind the point, if there is one. -/
  decimals : List Char := []
  exponent : Option ExponentPart := none
deriving DecidableEq, Repr

/-- The leading digits of a text. -/
def leadingDigits (text : List Char) : List Char :=
  text.takeWhile Char.isDigit

/-- A text without its leading digits. -/
def afterDigits (text : List Char) : List Char :=
  text.dropWhile Char.isDigit

namespace Numeral

/-- Reads an exponent from behind its letter.  The error at the end of the text is
given. -/
def scanExponent (atEnd : GrammarError) (text : List Char) :
    Except Fault (ExponentPart × List Char) :=
  let (isNegative, text) := match text with
    | '+' :: rest => (false, rest)
    | '-' :: rest => (true, rest)
    | _ => (false, text)
  match text with
  | [] => failBefore atEnd []
  | c :: rest =>
      if c.isDigit then .ok (⟨isNegative, leadingDigits text⟩, afterDigits text)
      else failWithin .invalidNumber (c :: rest)

/-- Reads an exponent if there is one. -/
def scanExponent? (atEnd : GrammarError) (text : List Char) :
    Except Fault (Option ExponentPart × List Char) :=
  match text with
  | c :: rest =>
      if c = 'e' ∨ c = 'E' then do
        let (exponent, rest) ← scanExponent atEnd rest
        .ok (some exponent, rest)
      else .ok (none, text)
  | [] => .ok (none, [])

/-- Reads the digits before the point; a leading zero stands alone. -/
def scanWhole (atEnd : GrammarError) (text : List Char) :
    Except Fault (List Char × List Char) :=
  match text with
  | [] => failBefore atEnd []
  | '0' :: c :: rest =>
      if c.isDigit then failWithin .invalidNumber (c :: rest) else .ok (['0'], c :: rest)
  | c :: rest =>
      if c.isDigit then .ok (leadingDigits text, afterDigits text)
      else failWithin .invalidNumber (c :: rest)

/-- Reads the digits behind the point. -/
def scanDecimals (atEnd : GrammarError) (text : List Char) :
    Except Fault (List Char × List Char) :=
  match text with
  | [] => failBefore atEnd []
  | c :: rest =>
      if c.isDigit then .ok (leadingDigits text, afterDigits text)
      else failWithin .invalidNumber (c :: rest)

/-- Reads the parts of a number from behind its sign. -/
def scanUnsigned (atEnd : GrammarError) (isNegative : Bool) (text : List Char) :
    Except Fault (Numeral × List Char) := do
  let (whole, rest) ← scanWhole atEnd text
  match rest with
  | '.' :: rest => do
      let (decimals, rest) ← scanDecimals atEnd rest
      let (exponent, rest) ← scanExponent? atEnd rest
      .ok ({ isNegative, whole, decimals, exponent }, rest)
  | rest => do
      let (exponent, rest) ← scanExponent? atEnd rest
      .ok ({ isNegative, whole, exponent }, rest)

/-- Reads the parts of a number. -/
def scan (atEnd : GrammarError) (text : List Char) : Except Fault (Numeral × List Char) :=
  match text with
  | '-' :: rest => scanUnsigned atEnd true rest
  | _ => scanUnsigned atEnd false text

/-! ## Value -/

/-- The value of a digit. -/
def digitValue (c : Char) : Nat :=
  c.toNat - '0'.toNat

/-- Appends digits to a number as long as it does not exceed a limit; returns the
digits that did not fit. -/
def absorb (limit : Nat) : Nat → List Char → Nat × List Char
  | value, [] => (value, [])
  | value, c :: rest =>
      if limit < value * 10 + digitValue c then (value, c :: rest)
      else absorb limit (value * 10 + digitValue c) rest

/-- The largest significand. -/
def maxSignificand : Nat := 18446744073709551615

/-- The largest exponent. -/
def maxExponent : Nat := 2147483647

/-- The largest magnitude of a negative integer. -/
def maxMagnitude : Nat := 9223372036854775808

/-- The floating point number with a significand and a power of ten. -/
def real? (isNegative : Bool) (significand : Nat) (power : Int) : Option Found := do
  let magnitude ← Decimal.Binary.ofRatio? significand 1
  return .real isNegative (← magnitude.scale? power)

/-- The value of a number that was followed by a text.  Digits that do not fit into
the significand only count for the exponent.  A number that is too large is refused
at its end, or at the digit that makes its exponent too large. -/
def evaluate (numeral : Numeral) (rest : List Char) : Except Fault Found :=
  let (whole, extra) := absorb maxSignificand 0 numeral.whole
  let (significand, dropped) := absorb maxSignificand whole numeral.decimals
  let power : Int := extra.length - (numeral.decimals.length - dropped.length : Nat)
  let found (power : Int) : Except Fault Found :=
    match real? numeral.isNegative significand power with
    | some found => .ok found
    | none => failBefore .numberOutOfRange rest
  match numeral.exponent with
  | some exponent =>
      match absorb maxExponent 0 exponent.digits with
      | (value, []) => found (if exponent.isNegative then power - value else power + value)
      | (_, _ :: digits) =>
          if significand = 0 ∨ exponent.isNegative then
            .ok (.real numeral.isNegative Decimal.Binary.zero)
          else failBefore .numberOutOfRange (digits ++ rest)
  | none =>
      if extra.isEmpty && numeral.decimals.isEmpty then
        if numeral.isNegative then
          if 0 < significand ∧ significand ≤ maxMagnitude then .ok (.negative significand)
          else found 0
        else .ok (.natural significand)
      else found power

end Numeral

/-- Reads a number for its value. -/
def readNumber (text : List Char) : Except Fault (Found × List Char) := do
  let (numeral, rest) ← Numeral.scan .endInValue text
  let found ← numeral.evaluate rest
  .ok (found, rest)

/-- Skips a number. -/
def skipNumber (text : List Char) : Except Fault (Unit × List Char) := do
  let (_, rest) ← Numeral.scan .invalidNumber text
  .ok ((), rest)

end Memberwise.Json
