import Memberwise.Decimal.Shortest
import Memberwise.Text.Quoted

/-!
# Faults in documents

Why a JSON document is refused, where in the text, and at which place of the
document.  A fault keeps what was left to read when it was noticed; its line and
column follow from the whole text.

Main results:

- Theorem {lit}`Position.advance_zero`: a position does not move over no bytes.
-/

namespace Memberwise.Json

/-! ## Places -/

/-- A step from a value into a part of it. -/
inductive Segment where
  | member (name : String)
  | element (index : Nat)
  /-- A member whose name could not be read. -/
  | unnamed
deriving DecidableEq, Repr

/-- The steps from the root of a document to one of its values. -/
abbrev Path := List Segment

/-- The text of a path below some value: member names follow a point. -/
def Path.below : Path → String
  | [] => ""
  | .member name :: rest => "." ++ name ++ Path.below rest
  | .element index :: rest => "[" ++ Nat.repr index ++ "]" ++ Path.below rest
  | .unnamed :: rest => ".?" ++ Path.below rest

/-- The text of a path from the root, which is a point itself. -/
def Path.text : Path → String
  | [] => "."
  | .member name :: rest => name ++ Path.below rest
  | .element index :: rest => "[" ++ Nat.repr index ++ "]" ++ Path.below rest
  | .unnamed :: rest => "?" ++ Path.below rest

/-! ## Causes -/

/-- A violation of the JSON grammar. -/
inductive GrammarError where
  | endInValue
  | endInList
  | endInObject
  | endInString
  | expectedColon
  | expectedCommaOrBracket
  | expectedCommaOrBrace
  | expectedWord
  | expectedValue
  | invalidEscape
  | invalidNumber
  | numberOutOfRange
  | controlCharacter
  | keyNotString
  | loneSurrogate
  | trailingComma
  | trailingCharacters
  | endOfHexEscape
deriving DecidableEq, Repr

/-- The wording of a violation. -/
def GrammarError.message : GrammarError → String
  | endInValue => "EOF while parsing a value"
  | endInList => "EOF while parsing a list"
  | endInObject => "EOF while parsing an object"
  | endInString => "EOF while parsing a string"
  | expectedColon => "expected `:`"
  | expectedCommaOrBracket => "expected `,` or `]`"
  | expectedCommaOrBrace => "expected `,` or `\x7d`"
  | expectedWord => "expected ident"
  | expectedValue => "expected value"
  | invalidEscape => "invalid escape"
  | invalidNumber => "invalid number"
  | numberOutOfRange => "number out of range"
  | controlCharacter =>
      "control character (\\u0000-\\u001F) found while parsing a string"
  | keyNotString => "key must be a string"
  | loneSurrogate => "lone leading surrogate in hex escape"
  | trailingComma => "trailing comma"
  | trailingCharacters => "trailing characters"
  | endOfHexEscape => "unexpected end of hex escape"

/-- A value as it is named where another was wanted. -/
inductive Found where
  | null
  | boolean (value : Bool)
  | natural (value : Nat)
  | negative (magnitude : Nat)
  | real (isNegative : Bool) (magnitude : Decimal.Binary)
  | string (value : String)
  | sequence
  | map
deriving DecidableEq, Repr

/-- The description of a value. -/
def Found.describe : Found → String
  | null => "null"
  | boolean value => "boolean `" ++ (if value then "true" else "false") ++ "`"
  | natural value => "integer `" ++ Nat.repr value ++ "`"
  | negative magnitude => "integer `-" ++ Nat.repr magnitude ++ "`"
  | real isNegative magnitude =>
      "floating point `" ++ (if isNegative then "-" else "") ++ magnitude.text ++ "`"
  | string value => "string " ++ Text.quoted value
  | sequence => "sequence"
  | map => "map"

/-- Why a document is refused. -/
inductive Cause where
  | grammar (error : GrammarError)
  | wrongType (found : Found) (expected : String)
  | missingMember (name : String)
  | repeatedMember (name : String)
  | tooFewElements (count : Nat) (expected : String)
deriving DecidableEq, Repr

/-- The wording of a cause. -/
def Cause.message : Cause → String
  | grammar error => error.message
  | wrongType found expected =>
      "invalid type: " ++ found.describe ++ ", expected " ++ expected
  | missingMember name => "missing field `" ++ name ++ "`"
  | repeatedMember name => "duplicate field `" ++ name ++ "`"
  | tooFewElements count expected =>
      "invalid length " ++ Nat.repr count ++ ", expected " ++ expected

/-! ## Positions -/

/-- A place in a text: the line counts from one, and the column is the number of
bytes between the start of the line and the place. -/
structure Position where
  line : Nat
  column : Nat
deriving DecidableEq, Repr

/-- The position after some bytes of a text, starting from another position. -/
def Position.advance (position : Position) : Nat → List Char → Position
  | 0, _ => position
  | _, [] => position
  | bytes + 1, c :: rest =>
      if c = '\n' then
        Position.advance ⟨position.line + 1, 0⟩ bytes rest
      else
        Position.advance ⟨position.line, position.column + min (bytes + 1) c.utf8Size⟩
          (bytes + 1 - c.utf8Size) rest

/-- A position does not move over no bytes. -/
@[simp]
theorem Position.advance_zero (position : Position) (text : List Char) :
    position.advance 0 text = position := by
  cases text <;> rfl

/-- The number of bytes of a text. -/
def byteLength : List Char → Nat
  | [] => 0
  | c :: rest => c.utf8Size + byteLength rest

/-! ## Faults -/

/-- A cause, the place of the document that it concerns, and the place of the text
at which it was noticed. -/
structure Fault where
  path : Path
  cause : Cause
  /-- What was left to read. -/
  rest : List Char
  /-- How many bytes of it had been looked at. -/
  ahead : Nat
deriving DecidableEq, Repr

namespace Fault

/-- A fault that was noticed in front of what is left to read. -/
def before (cause : Cause) (rest : List Char) : Fault :=
  ⟨[], cause, rest, 0⟩

/-- A fault that lies in the next byte of what is left to read. -/
def within (cause : Cause) (rest : List Char) : Fault :=
  ⟨[], cause, rest, 1⟩

/-- The position of a fault in a text. -/
def position (fault : Fault) (source : List Char) : Position :=
  Position.advance ⟨1, 0⟩ (byteLength source - byteLength fault.rest + fault.ahead) source

/-- The wording of a fault: its place in the document, its cause, and its position. -/
def message (fault : Fault) (source : List Char) : String :=
  let position := fault.position source
  "at JSON path " ++ fault.path.text ++ " → " ++ fault.cause.message ++ " at line "
    ++ Nat.repr position.line ++ " column " ++ Nat.repr position.column

end Fault

end Memberwise.Json
