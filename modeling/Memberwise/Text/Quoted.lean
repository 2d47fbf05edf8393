import Memberwise.Text.Printable

/-!
# Quoted text

A text as it is shown in messages: in double quotes, with everything escaped that
would not be seen.

Main definitions:

- {lit}`quotedChar`: how one character is shown.
- {lit}`quoted`: how a text is shown.
-/

namespace Memberwise.Text

/-- How a character is shown inside double quotes: the common control characters,
the quote and the backslash have short escapes, and other characters that would
not be seen on their own are given by their hexadecimal code point. -/
def quotedChar (c : Char) : List Char :=
  if c = '\x00' then ['\\', '0']
  else if c = '\t' then ['\\', 't']
  else if c = '\r' then ['\\', 'r']
  else if c = '\n' then ['\\', 'n']
  else if c = '"' ∨ c = '\\' then ['\\', c]
  else if isPrintable c && !extendsGrapheme c then [c]
  else ['\\', 'u', '{'] ++ Nat.toDigits 16 c.toNat ++ ['}']

/-- How a text is shown: in double quotes. -/
def quoted (text : String) : String :=
  String.ofList ('"' :: (text.toList.flatMap quotedChar ++ ['"']))

end Memberwise.Text
