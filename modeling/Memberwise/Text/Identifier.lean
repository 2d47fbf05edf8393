/-!
# Identifiers

The spelling of identifiers in generated code: an ASCII letter, an underscore or
a dollar sign, followed by any number of these and ASCII digits.

Main definitions:

- {lit}`isIdentifier`: whether a text is spelled as an identifier from its first
  character to its very last.
-/

namespace Memberwise.Text

/-- Whether a character may begin an identifier. -/
def isIdentifierStart (c : Char) : Bool :=
  c.isAlpha || c == '_' || c == '$'

/-- Whether a character may continue an identifier. -/
def isIdentifierRest (c : Char) : Bool :=
  isIdentifierStart c || c.isDigit

/-- Whether the characters of a text spell an identifier. -/
def spellsIdentifier : List Char → Bool
  | [] => false
  | c :: rest => isIdentifierStart c && rest.all isIdentifierRest

/-- Whether a text is spelled as an identifier. -/
def isIdentifier (name : String) : Bool :=
  spellsIdentifier name.toList

end Memberwise.Text
