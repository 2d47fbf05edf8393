import Memberwise.Text.Blank
import Memberwise.Text.Hexadecimal

/-!
# Parts of regular expressions

The smallest parts of a regular expression: single characters, assertions and named
classes, and how they are escaped.

Main definitions:

- {lit}`Modes`: what depends on the flags that are on.
- {lit}`Primitive`: the smallest parts.
- {lit}`readEscape`: what stands behind a backslash.
-/

namespace Memberwise.Regex

/-! ## Modes -/

/-- How a stretch of a regular expression is taken. -/
structure Modes where
  /-- Characters are Unicode characters, and not bytes. -/
  unicode : Bool := true
  /-- Blanks and comments between the parts are skipped. -/
  verbose : Bool := false
deriving DecidableEq, Repr

/-- Skips blanks, and comments from a number sign to the end of their line.  The flag
tells whether the text starts inside a comment. -/
def skipBlanks : Bool → List Char → List Char
  | _, [] => []
  | true, c :: rest => skipBlanks (c != '\n') rest
  | false, c :: rest =>
      if Text.isBlank c then skipBlanks false rest
      else if c = '#' then skipBlanks true rest
      else c :: rest

/-- Skips what is skipped between the parts. -/
def Modes.skip (modes : Modes) (text : List Char) : List Char :=
  if modes.verbose then skipBlanks false text else text

/-! ## Primitives -/

/-- The smallest parts of a regular expression. -/
inductive Primitive where
  /-- A character, perhaps given as a byte. -/
  | literal (c : Char) (asByte : Bool)
  /-- Any character but the end of a line. -/
  | anyChar
  /-- The start or the end of a line or of the text. -/
  | lineEdge
  /-- The edge of a word, or no such edge. -/
  | wordEdge
  /-- The characters of a category that is named by one letter. -/
  | category (letter : Char)
  /-- Digits, blanks or the characters of words, or all others. -/
  | charKind (isNegated : Bool)
deriving DecidableEq, Repr

/-- The letters that name a category, in lower case. -/
def categoryLetters : List Char := ['c', 'l', 'm', 'n', 'p', 's', 'z']

/-- Whether a part can be matched against text in UTF-8, one byte at a time.  A part that
stands for bytes must not admit half a character, and the edges of words of all scripts
cannot be told from the bytes next to them. -/
def Primitive.isSupported (modes : Modes) : Primitive → Bool
  | literal c asByte => modes.unicode || !asByte || decide (c.toNat < 0x80)
  | anyChar => modes.unicode
  | lineEdge => true
  | wordEdge => !modes.unicode
  | category letter => modes.unicode && categoryLetters.contains letter.toLower
  | charKind isNegated => modes.unicode || !isNegated

/-! ## Escapes -/

/-- Reads a number of hexadecimal digits, behind digits of the given value. -/
def readHexDigits (modes : Modes) : Nat → Nat → List Char → Option (Nat × List Char)
  | 0, value, text => some (value, text)
  | count + 1, value, text =>
      match modes.skip text with
      | [] => none
      | c :: rest => do readHexDigits modes count (16 * value + (← Text.hexDigit? c)) rest

/-- Reads a character that is given by the digits of its code point. -/
def readCodePoint (modes : Modes) (digits : Nat) (text : List Char) :
    Option (Primitive × List Char) := do
  let (value, rest) ← readHexDigits modes digits 0 text
  if value.isValidChar then return (.literal (Char.ofNat value) (digits == 2), rest)
  else none

/-- Reads what stands behind a backslash.  The names of letters in braces are not read,
since a regular expression is taken from between braces and holds no closing one. -/
def readEscape (modes : Modes) : List Char → Option (Primitive × List Char)
  | [] => none
  | c :: rest =>
      let literal (c : Char) : Option (Primitive × List Char) := some (.literal c false, rest)
      match c with
      | 'x' => readCodePoint modes 2 rest
      | 'u' => readCodePoint modes 4 rest
      | 'U' => readCodePoint modes 8 rest
      | 'p' | 'P' =>
          match modes.skip rest with
          | [] => none
          | letter :: rest => some (.category letter, rest)
      | 'd' | 's' | 'w' => some (.charKind false, rest)
      | 'D' | 'S' | 'W' => some (.charKind true, rest)
      | 'A' | 'z' => some (.lineEdge, rest)
      | 'b' | 'B' | '<' | '>' => some (.wordEdge, rest)
      | 'a' => literal '\x07'
      | 'f' => literal '\x0c'
      | 't' => literal '\t'
      | 'n' => literal '\n'
      | 'r' => literal '\r'
      | 'v' => literal '\x0b'
      | _ => if decide (c.toNat < 0x80) && !c.isAlphanum then literal c else none

end Memberwise.Regex
