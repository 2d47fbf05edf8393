import Memberwise.Regex.Primitive

/-!
# Character classes in brackets

A class lists its members in brackets: characters, ranges, named classes and classes in
brackets of their own, combined by the operators for intersection, difference and
symmetric difference.

Main definitions:

- {lit}`readBracket`: reads a class and gives its depth.
-/

namespace Memberwise.Regex

/-! ## Depth -/

/-- The greatest of some numbers. -/
def greatest (depths : List Nat) : Nat :=
  depths.foldl max 0

/-- The depth of some parts side by side: a single part stands for itself. -/
def sideBySide : List Nat → Nat
  | [] => 0
  | [depth] => depth
  | depths => 1 + greatest depths

/-- A class while it is read. -/
structure Bracket where
  /-- The depths of the members behind the last operator. -/
  members : List Nat := []
  /-- The depth of what stands before the last operator. -/
  left : Option Nat := none
  /-- Nothing but hyphens has been read.  These are members, and so is a closing bracket
  in the first place. -/
  isStart : Bool := true
deriving DecidableEq, Repr

namespace Bracket

/-- Adds a member. -/
def add (bracket : Bracket) (depth : Nat) : Bracket :=
  { bracket with members := depth :: bracket.members }

/-- The depth of what has been read. -/
def depth (bracket : Bracket) : Nat :=
  match bracket.left with
  | none => sideBySide bracket.members
  | some left => 1 + max left (sideBySide bracket.members)

/-- Goes on behind an operator. -/
def combine (bracket : Bracket) : Bracket :=
  { left := some bracket.depth, isStart := false }

end Bracket

/-! ## Members -/

/-- The names of the ASCII classes. -/
def asciiClassNames : List String :=
  ["alnum", "alpha", "ascii", "blank", "cntrl", "digit", "graph", "lower", "print", "punct",
    "space", "upper", "word", "xdigit"]

/-- Reads an ASCII class in colons from behind its opening bracket, and whether it is
negated. -/
def readAsciiClass : List Char → Option (Bool × List Char)
  | ':' :: rest =>
      let isNegated := rest.head? == some '^'
      let text := if isNegated then rest.drop 1 else rest
      let name := String.ofList (text.takeWhile (· != ':'))
      match text.dropWhile (· != ':') with
      | ':' :: ']' :: rest => if name ∈ asciiClassNames then some (isNegated, rest) else none
      | _ => none
  | _ => none

/-- Reads a part that may stand in a class. -/
def readMember (modes : Modes) : List Char → Option (Primitive × List Char)
  | [] => none
  | '\\' :: rest => readEscape modes rest
  | c :: rest => some (.literal c false, rest)

/-- The character of a part that can be a member.  Among bytes, it must be ASCII. -/
def Primitive.memberChar? (modes : Modes) : Primitive → Option Char
  | .literal c _ => if modes.unicode || decide (c.toNat < 0x80) then some c else none
  | _ => none

/-- Whether a part can be a member. -/
def Primitive.isMember (modes : Modes) (part : Primitive) : Bool :=
  match part with
  | .literal _ _ => (part.memberChar? modes).isSome
  | .category _ | .charKind _ => part.isSupported modes
  | .anyChar | .lineEdge | .wordEdge => false

/-- Whether two parts can be the ends of a range. -/
def isRange (modes : Modes) (low high : Primitive) : Bool :=
  match low.memberChar? modes, high.memberChar? modes with
  | some low, some high => decide (low.toNat ≤ high.toNat)
  | _, _ => false

/-- The next character that is not skipped.  At most the sign of a single comment is
skipped, and none of its text. -/
def peek (modes : Modes) (text : List Char) : Option Char :=
  if modes.verbose then
    match text.dropWhile Text.isBlank with
    | '#' :: rest => (rest.dropWhile Text.isBlank).head?
    | rest => rest.head?
  else text.head?

/-- Reads a member or a range. -/
def readMembers (modes : Modes) (text : List Char) : Option (List Char) := do
  let (low, rest) ← readMember modes text
  match modes.skip rest with
  | '-' :: after =>
      if peek modes after = some ']' ∨ peek modes after = some '-' then
        if low.isMember modes then some ('-' :: after) else none
      else
        let (high, rest) ← readMember modes (modes.skip after)
        if isRange modes low high then some rest else none
  | rest => if low.isMember modes then some rest else none

/-! ## Classes -/

/-- Reads the start of a class from behind its opening bracket: the sign of negation, which
among bytes would admit half a character. -/
def openBracket (modes : Modes) (text : List Char) : Option (List Char) :=
  match modes.skip text with
  | '^' :: rest => if modes.unicode then some rest else none
  | rest => some rest

/-- Reads the rest of a class inside some others, and gives the depth of the outermost.
Every step takes at least one character, so their number is bounded by the first
argument. -/
def readInside (modes : Modes) : Nat → Bracket → List Bracket → List Char →
    Option (Nat × List Char)
  | 0, _, _, _ => none
  | bound + 1, bracket, outer, text =>
      match modes.skip text with
      | [] => none
      | c :: rest =>
          let inside := { bracket with isStart := false }
          if bracket.isStart && c == '-' then
            readInside modes bound (bracket.add 0) outer rest
          else if bracket.isStart && c == ']' && bracket.members.isEmpty then
            readInside modes bound (inside.add 0) outer rest
          else if c = '[' then
            match readAsciiClass rest with
            | some (isNegated, rest) =>
                if isNegated && !modes.unicode then none
                else readInside modes bound (inside.add 0) outer rest
            | none => do readInside modes bound {} (inside :: outer) (← openBracket modes rest)
          else if c = ']' then
            match outer with
            | [] => some (1 + bracket.depth, rest)
            | parent :: outer =>
                readInside modes bound (parent.add (1 + bracket.depth)) outer rest
          else if (c == '&' || c == '-' || c == '~') && rest.head? == some c then
            readInside modes bound bracket.combine outer (rest.drop 1)
          else do
            readInside modes bound (inside.add 0) outer (← readMembers modes (c :: rest))

/-- Reads a class from behind its opening bracket, and gives its depth. -/
def readBracket (modes : Modes) (text : List Char) : Option (Nat × List Char) := do
  readInside modes (text.length + 1) {} [] (← openBracket modes text)

end Memberwise.Regex
