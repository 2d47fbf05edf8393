import Memberwise.Regex.Bracket
import Memberwise.Text.Alphanumeric

/-!
# Regular expressions

Whether a text is a regular expression that can be matched one byte at a time.  Nothing is
ever matched, so all that is kept of an expression is how deeply its parts are nested.

Main definitions:

- {lit}`Expression`: an expression while it is read.
- {lit}`isRegex`: whether a text is a regular expression.
-/

namespace Memberwise.Regex

/-! ## Expressions -/

/-- A part of a sequence: a change of flags, or something of a depth. -/
inductive Part where
  | flags
  | something (depth : Nat)
deriving DecidableEq, Repr

/-- The depth of a part. -/
def Part.depth : Part → Nat
  | flags => 0
  | something depth => depth

/-- Some alternatives while they are read. -/
structure Alternatives where
  /-- The parts of the current alternative, the last one first. -/
  parts : List Part := []
  /-- The depths of the alternatives before. -/
  depths : List Nat := []
deriving DecidableEq, Repr

/-- The depth of some alternatives. -/
def Alternatives.depth (alternatives : Alternatives) : Nat :=
  sideBySide (sideBySide (alternatives.parts.map Part.depth) :: alternatives.depths)

/-- An expression while it is read. -/
structure Expression where
  modes : Modes := {}
  /-- The innermost group that is open, or the whole. -/
  current : Alternatives := {}
  /-- What is around it, with the modes that come back when it is closed. -/
  around : List (Modes × Alternatives) := []
  /-- The names of the groups. -/
  names : List String := []
deriving DecidableEq, Repr

namespace Expression

/-- Adds a part. -/
def add (expression : Expression) (part : Part) : Expression :=
  { expression with
    current := { expression.current with parts := part :: expression.current.parts } }

/-- Adds a primitive. -/
def addPrimitive (expression : Expression) (primitive : Primitive) : Option Expression :=
  if primitive.isSupported expression.modes then some (expression.add (.something 0))
  else none

/-- Starts the next alternative. -/
def alternate (expression : Expression) : Expression :=
  let ⟨parts, depths⟩ := expression.current
  { expression with current := ⟨[], sideBySide (parts.map Part.depth) :: depths⟩ }

/-- Repeats the last part, if there is one that is no change of flags. -/
def repeatLast (expression : Expression) : Option Expression :=
  match expression.current.parts with
  | .something depth :: parts =>
      some { expression with
        current := { expression.current with parts := .something (depth + 1) :: parts } }
  | _ => none

/-- Opens a group with its own modes. -/
def openGroup (expression : Expression) (modes : Modes) : Expression :=
  { expression with
    modes := modes
    current := {}
    around := (expression.modes, expression.current) :: expression.around }

/-- Closes the innermost group, if one is open. -/
def closeGroup (expression : Expression) : Option Expression :=
  match expression.around with
  | [] => none
  | (modes, outer) :: around =>
      let closed := { expression with modes := modes, current := outer, around := around }
      some (closed.add (.something (1 + expression.current.depth)))

/-- Adds the name of a group, which must be new. -/
def addName (expression : Expression) (name : String) : Option Expression :=
  if name ∈ expression.names then none
  else some { expression with names := name :: expression.names }

end Expression

/-! ## Flags -/

/-- The flags. -/
def flagLetters : List Char := ['i', 'm', 's', 'U', 'u', 'R', 'x']

/-- Flags while they are read: those that have been seen, whether the sign that switches
flags off has been, and the modes that they make. -/
structure Flags where
  seen : List Char := []
  isNegated : Bool := false
  modes : Modes
deriving DecidableEq, Repr

/-- Switches a flag. -/
def Flags.add (flags : Flags) (letter : Char) : Flags :=
  let value := !flags.isNegated
  { flags with
    seen := letter :: flags.seen
    modes :=
      if letter = 'u' then { flags.modes with unicode := value }
      else if letter = 'x' then { flags.modes with verbose := value }
      else flags.modes }

/-- Reads flags up to a colon or a closing parenthesis.  Each is given once, and the sign
that switches flags off is given once and followed by some. -/
def readFlags : Flags → Bool → List Char → Option (Flags × List Char)
  | _, _, [] => none
  | flags, isDangling, c :: rest =>
      if c = ':' ∨ c = ')' then if isDangling then none else some (flags, c :: rest)
      else if c = '-' then
        if flags.isNegated then none else readFlags { flags with isNegated := true } true rest
      else if flagLetters.contains c && !flags.seen.contains c then
        readFlags (flags.add c) false rest
      else none

/-! ## Groups -/

/-- Whether a name of a group may begin with a character. -/
def isNameStart (c : Char) : Bool :=
  c == '_' || Text.isAlphabetic c

/-- Whether a name of a group may go on with a character. -/
def isNameRest (c : Char) : Bool :=
  c == '_' || c == '.' || c == '[' || c == ']' || Text.isAlphanumeric c

/-- Reads the name of a group up to the sign that closes it. -/
def readName (text : List Char) : Option (String × List Char) :=
  match text.span (· != '>') with
  | (c :: name, _ :: rest) =>
      if isNameStart c && name.all isNameRest then some (String.ofList (c :: name), rest)
      else none
  | _ => none

/-- Opens a group with a name. -/
def readNamedGroup (expression : Expression) (text : List Char) :
    Option (Expression × List Char) := do
  let (name, rest) ← readName text
  return (← (expression.openGroup expression.modes).addName name, rest)

/-- Reads the start of a group, or a change of flags, from behind the opening parenthesis.
Looking ahead or behind is not supported. -/
def readGroupStart (expression : Expression) (text : List Char) :
    Option (Expression × List Char) :=
  match expression.modes.skip text with
  | '?' :: 'P' :: '<' :: rest => readNamedGroup expression rest
  | '?' :: '<' :: '=' :: _ => none
  | '?' :: '<' :: '!' :: _ => none
  | '?' :: '<' :: rest => readNamedGroup expression rest
  | '?' :: rest =>
      match readFlags { modes := expression.modes } false rest with
      | some (flags, ':' :: rest) => some (expression.openGroup flags.modes, rest)
      | some (flags, _ :: rest) =>
          if flags.seen.isEmpty then none
          else some ({ expression with modes := flags.modes }.add .flags, rest)
      | _ => none
  | rest => some (expression.openGroup expression.modes, rest)

/-! ## Reading -/

/-- Reads the next part.  A brace would open the bounds of a repetition, which cannot be
closed. -/
def readPart (expression : Expression) (c : Char) (rest : List Char) :
    Option (Expression × List Char) :=
  match c with
  | '(' => readGroupStart expression rest
  | ')' => do return (← expression.closeGroup, rest)
  | '|' => some (expression.alternate, rest)
  | '[' => do
      let (depth, rest) ← readBracket expression.modes rest
      return (expression.add (.something depth), rest)
  | '?' | '*' | '+' => do
      let expression ← expression.repeatLast
      return (expression, if rest.head? = some '?' then rest.drop 1 else rest)
  | '{' => none
  | '\\' => do
      let (primitive, rest) ← readEscape expression.modes rest
      return (← expression.addPrimitive primitive, rest)
  | '.' => do return (← expression.addPrimitive .anyChar, rest)
  | '^' | '$' => do return (← expression.addPrimitive .lineEdge, rest)
  | _ => do return (← expression.addPrimitive (.literal c false), rest)

/-- Reads an expression to its end.  Every step takes at least one character, so their
number is bounded by the first argument. -/
def readExpression : Nat → Expression → List Char → Option Expression
  | 0, _, _ => none
  | bound + 1, expression, text =>
      match expression.modes.skip text with
      | [] => some expression
      | c :: rest => do
          let (expression, rest) ← readPart expression c rest
          readExpression bound expression rest

/-- How deeply parts may be nested. -/
def maxDepth : Nat := 250

/-- Whether a text is a regular expression. -/
def isRegex (text : List Char) : Bool :=
  match readExpression (text.length + 1) {} text with
  | none => false
  | some expression => expression.around.isEmpty && decide (expression.current.depth ≤ maxDepth)

end Memberwise.Regex
