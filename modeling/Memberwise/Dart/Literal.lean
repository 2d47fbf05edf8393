/-!
# String literals

The two kinds of string literal in generated code: single-quoted map keys, in
which nothing is interpolated, and the double-quoted text of a class, which
interpolates its fields.

Main definitions:

- {lit}`singleQuoted`: a literal that denotes a given text.
- {lit}`Piece`: a part of an interpolated literal.
- {lit}`doubleQuoted`: a literal made of pieces.
-/

namespace Memberwise.Dart

/-! ## Literals without interpolation -/

/-- How a character is written inside a single-quoted literal: the backslash, the
quote and the dollar sign follow a backslash, and a line feed is spelled out. -/
def escaped (c : Char) : List Char :=
  if c = '\\' ∨ c = '\'' ∨ c = '$' then ['\\', c]
  else if c = '\n' then ['\\', 'n']
  else [c]

/-- The characters of the single-quoted literal that denotes a text. -/
def singleQuotedChars (text : List Char) : List Char :=
  '\'' :: (text.flatMap escaped ++ ['\''])

/-- The single-quoted literal that denotes a text. -/
def singleQuoted (text : String) : String :=
  String.ofList (singleQuotedChars text.toList)

/-! ## Literals with interpolation -/

/-- A part of an interpolated literal: text that stands for itself, or the value
of a variable. -/
inductive Piece where
  | plain (text : String)
  | value (name : String)
deriving DecidableEq, Repr

/-- Puts a backslash in front of every dollar sign. -/
def escapeDollars (text : List Char) : List Char :=
  text.flatMap fun c => if c = '$' then ['\\', '$'] else [c]

/-- The characters of a piece inside a double-quoted literal.  A name that holds a
dollar sign is put in braces, since the short form ends at the next one. -/
def Piece.chars : Piece → List Char
  | plain text => escapeDollars text.toList
  | value name =>
      if '$' ∈ name.toList then '$' :: '{' :: (name.toList ++ ['}'])
      else '$' :: name.toList

/-- The double-quoted literal made of some pieces. -/
def doubleQuoted (pieces : List Piece) : String :=
  String.ofList ('"' :: (pieces.flatMap Piece.chars ++ ['"']))

end Memberwise.Dart
