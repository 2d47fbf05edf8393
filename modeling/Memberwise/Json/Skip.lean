import Memberwise.Json.Characters
import Memberwise.Json.Number

/-!
# Values that are skipped

Values of members that a document may hold without being asked for.  They need only
be well formed, at any depth of nesting; the brackets that are open are kept in a
list, innermost first.

Main definitions:

- {lit}`skipValue`: skips one value.
-/

namespace Memberwise.Json

/-! ## Brackets -/

/-- A bracket that holds values. -/
inductive Bracket where
  | square
  | curly
deriving DecidableEq, Repr

namespace Bracket

/-- The character that closes a bracket. -/
def closing : Bracket → Char
  | square => ']'
  | curly => '}'

/-- The error of a text that ends inside a bracket. -/
def endError : Bracket → GrammarError
  | square => .endInList
  | curly => .endInObject

/-- The error of a value that is followed by neither a comma nor the closing
bracket. -/
def separatorError : Bracket → GrammarError
  | square => .expectedCommaOrBracket
  | curly => .expectedCommaOrBrace

end Bracket

/-! ## Parts -/

/-- Reads the colon behind the name of a member. -/
def readColon (text : List Char) : Except Fault (Unit × List Char) :=
  match skipBlanks text with
  | [] => failBefore .endInObject []
  | c :: rest => if c = ':' then .ok ((), rest) else failWithin .expectedColon (c :: rest)

/-- Skips what stands in front of a value: the name of a member in an object, and
nothing in an array. -/
def skipName (bracket : Bracket) (text : List Char) : Except Fault (Unit × List Char) :=
  match bracket with
  | .square => .ok ((), text)
  | .curly =>
      match skipBlanks text with
      | [] => failBefore .endInObject []
      | c :: rest =>
          if c = '"' then do
            let (_, rest) ← skipChars rest
            readColon rest
          else failWithin .keyNotString (c :: rest)

/-- Skips a value that begins with the given character and holds no others. -/
def skipScalar (c : Char) (rest : List Char) : Except Fault (Unit × List Char) :=
  if c = 'n' then word ['u', 'l', 'l'] rest
  else if c = 't' then word ['r', 'u', 'e'] rest
  else if c = 'f' then word ['a', 'l', 's', 'e'] rest
  else if c = '-' ∨ c.isDigit then skipNumber (c :: rest)
  else if c = '"' then skipChars rest
  else failWithin .expectedValue (c :: rest)

/-! ## Nested values -/

/-- Where a skipped value has got to; the brackets are the open ones, innermost
first. -/
inductive Progress where
  | beforeValue (enclosing : List Bracket)
  | afterOpening (bracket : Bracket) (outer : List Bracket)
  | afterValue (enclosing : List Bracket)
deriving DecidableEq, Repr

/-- Skips what is left of a value, in at most the given number of steps. -/
def skipFrom : Nat → Progress → List Char → Except Fault (Unit × List Char)
  | 0, _, text => failWithin .endInValue text
  | steps + 1, .beforeValue enclosing, text =>
      match skipBlanks text with
      | [] => failBefore .endInValue []
      | c :: rest =>
          if c = '[' then skipFrom steps (.afterOpening .square enclosing) rest
          else if c = '{' then skipFrom steps (.afterOpening .curly enclosing) rest
          else
            match skipScalar c rest with
            | .error fault => .error fault
            | .ok ((), rest) => skipFrom steps (.afterValue enclosing) rest
  | steps + 1, .afterOpening bracket outer, text =>
      match skipBlanks text with
      | [] => failBefore bracket.endError []
      | c :: rest =>
          if c = bracket.closing then skipFrom steps (.afterValue outer) rest
          else
            match skipName bracket (c :: rest) with
            | .error fault => .error fault
            | .ok ((), rest) => skipFrom steps (.beforeValue (bracket :: outer)) rest
  | _ + 1, .afterValue [], text => .ok ((), text)
  | steps + 1, .afterValue (bracket :: outer), text =>
      match skipBlanks text with
      | [] => failBefore bracket.endError []
      | c :: rest =>
          if c = ',' then
            match skipName bracket rest with
            | .error fault => .error fault
            | .ok ((), rest) => skipFrom steps (.beforeValue (bracket :: outer)) rest
          else if c = bracket.closing then skipFrom steps (.afterValue outer) rest
          else failWithin bracket.separatorError (c :: rest)

/-- Skips one value.  Every bracket takes two steps, and every other character at
most one. -/
def skipValue (text : List Char) : Except Fault (Unit × List Char) :=
  skipFrom (2 * text.length + 2) (.beforeValue []) text

end Memberwise.Json
