import Memberwise.Json.Skip

/-!
# Values that are wanted

Readers for the values of a known shape.  A value of another shape is named in the
fault: one without parts is read to its end first, and one with parts is left alone.

Main definitions:

- {lit}`readText`, {lit}`readBoolean`, {lit}`readOptional`, {lit}`readList`: values
  of one kind.
- {lit}`Schema`: the members of a record, which is written as an object or as the
  array of its members in order.
- {lit}`Schema.read`: a record.
-/

namespace Memberwise.Json

/-! ## Values of one kind -/

/-- The fault of a text that should hold something else than it does. -/
def mismatch {α : Type} (expected : String) (text : List Char) : Except Fault α :=
  let found (found : Found) (rest : List Char) : Except Fault α :=
    .error (Fault.before (.wrongType found expected) rest)
  match skipBlanks text with
  | [] => failBefore .endInValue []
  | c :: rest =>
      if c = 'n' then do
        let (_, rest) ← word ['u', 'l', 'l'] rest
        found .null rest
      else if c = 't' then do
        let (_, rest) ← word ['r', 'u', 'e'] rest
        found (.boolean true) rest
      else if c = 'f' then do
        let (_, rest) ← word ['a', 'l', 's', 'e'] rest
        found (.boolean false) rest
      else if c = '-' ∨ c.isDigit then do
        let (number, rest) ← readNumber (c :: rest)
        found number rest
      else if c = '"' then do
        let (value, rest) ← readString rest
        found (.string value) rest
      else if c = '[' then found .sequence (c :: rest)
      else if c = '{' then found .map (c :: rest)
      else failWithin .expectedValue (c :: rest)

/-- Reads a string. -/
def readText : Reader String := fun text =>
  match skipBlanks text with
  | '"' :: rest => readString rest
  | other => mismatch "a string" other

/-- Reads a truth value. -/
def readBoolean : Reader Bool := fun text =>
  match skipBlanks text with
  | 't' :: rest => do
      let (_, rest) ← word ['r', 'u', 'e'] rest
      .ok (true, rest)
  | 'f' :: rest => do
      let (_, rest) ← word ['a', 'l', 's', 'e'] rest
      .ok (false, rest)
  | other => mismatch "a boolean" other

/-- Reads a value that may be null. -/
def readOptional {α : Type} (read : Reader α) : Reader (Option α) := fun text =>
  match skipBlanks text with
  | 'n' :: rest => do
      let (_, rest) ← word ['u', 'l', 'l'] rest
      .ok (none, rest)
  | other => do
      let (value, rest) ← read other
      .ok (some value, rest)

/-! ## Arrays -/

/-- Looks for the next element of an array.  The rest begins with the element, or
with the bracket that closes the array. -/
def nextElement (isFirst : Bool) (text : List Char) : Except Fault (Bool × List Char) :=
  match skipBlanks text with
  | [] => failBefore .endInList []
  | c :: rest =>
      if c = ']' then .ok (false, c :: rest)
      else if isFirst then .ok (true, c :: rest)
      else if c = ',' then
        match skipBlanks rest with
        | [] => failBefore .endInValue []
        | d :: rest =>
            if d = ']' then failWithin .trailingComma (d :: rest) else .ok (true, d :: rest)
      else failWithin .expectedCommaOrBracket (c :: rest)

/-- Reads the bracket that closes an array of known length. -/
def closeArray (text : List Char) : Except Fault (Unit × List Char) :=
  match skipBlanks text with
  | [] => failBefore .endInList []
  | c :: rest =>
      if c = ']' then .ok ((), rest)
      else if c = ',' then
        match skipBlanks rest with
        | ']' :: more => failWithin .trailingComma (']' :: more)
        | other => failWithin .trailingCharacters other
      else failWithin .trailingCharacters (c :: rest)

/-- Reads the elements of an array from the given index on, at most the given number
of them, and the closing bracket. -/
def readElements {α : Type} (read : Reader α) :
    Nat → Nat → List Char → Except Fault (List α × List Char)
  | 0, _, text => failWithin .endInList text
  | bound + 1, index, text => do
      let (more, rest) ← nextElement (index == 0) text
      if more then
        let (value, rest) ← below (.element index) (read rest)
        let (values, rest) ← readElements read bound (index + 1) rest
        .ok (value :: values, rest)
      else
        let (_, rest) ← closeArray rest
        .ok ([], rest)

/-- Reads the elements of an array from behind its opening bracket.  An array has
fewer elements than characters. -/
def readListBody {α : Type} (read : Reader α) (text : List Char) :
    Except Fault (List α × List Char) :=
  readElements read (text.length + 1) 0 text

/-- Reads an array of any length. -/
def readList {α : Type} (read : Reader α) : Reader (List α) := fun text =>
  match skipBlanks text with
  | '[' :: rest => readListBody read rest
  | other => mismatch "a sequence" other

/-! ## Objects -/

/-- Reads the name of the next member of an object from behind its opening quote. -/
def readName (text : List Char) : Except Fault (Option String × List Char) := do
  let (name, rest) ← readString text
  .ok (some name, rest)

/-- Looks for the name of the next member of an object.  Without one, the rest begins
with the brace that closes the object. -/
def nextName (isFirst : Bool) (text : List Char) :
    Except Fault (Option String × List Char) :=
  match skipBlanks text with
  | [] => failBefore .endInObject []
  | c :: rest =>
      if c = '}' then .ok (none, c :: rest)
      else if isFirst then
        if c = '"' then readName rest else failWithin .keyNotString (c :: rest)
      else if c = ',' then
        match skipBlanks rest with
        | [] => failBefore .endInValue []
        | d :: rest =>
            if d = '"' then readName rest
            else if d = '}' then failWithin .trailingComma (d :: rest)
            else failWithin .keyNotString (d :: rest)
      else failWithin .expectedCommaOrBrace (c :: rest)

/-- What remains of an object behind its closing brace, if that is what comes next. -/
def afterBrace (text : List Char) : List Char :=
  match skipBlanks text with
  | '}' :: rest => rest
  | other => other

/-- Reads the members of an object, at most the given number of them, and the closing
brace.  The value of each member is read into a state, unless its name is refused. -/
def readMembers {σ : Type} (member : String → σ → Except Cause (Reader σ)) :
    Nat → Bool → σ → List Char → Except Fault (σ × List Char)
  | 0, _, _, text => failWithin .endInObject text
  | bound + 1, isFirst, state, text => do
      let (name, rest) ← below .unnamed (nextName isFirst text)
      match name with
      | none => .ok (state, afterBrace rest)
      | some name =>
          match member name state with
          | .error cause => .error (Fault.before cause (afterBrace rest))
          | .ok read =>
              let (_, rest) ← readColon rest
              let (state, rest) ← below (.member name) (read rest)
              readMembers member bound false state rest

/-- Reads the members of an object from behind its opening brace.  An object has fewer
members than characters. -/
def readObjectBody {σ : Type} (member : String → σ → Except Cause (Reader σ)) (state : σ)
    (text : List Char) : Except Fault (σ × List Char) :=
  readMembers member (text.length + 1) true state text

/-! ## Records -/

/-- A member of a record: whether it has been read already, and how it is read. -/
structure Slot (σ : Type) where
  name : String
  isFilled : σ → Bool
  read : σ → Reader σ

/-- The slot of a member that is kept in an optional part of the state. -/
def Slot.of {σ α : Type} (name : String) (get : σ → Option α) (set : σ → α → σ)
    (read : Reader α) : Slot σ where
  name := name
  isFilled state := (get state).isSome
  read state text := do
    let (value, rest) ← read text
    .ok (set state value, rest)

/-- A record: the slots of its members in order, the state in which none has been
read, and the value of a state. -/
structure Schema (σ α : Type) where
  name : String
  slots : List (Slot σ)
  empty : σ
  /-- The value of an object with the given members, if none is missing. -/
  ofMembers : σ → Except Cause α
  /-- The value of an array with the given elements, if there are enough. -/
  ofElements : σ → Except Cause α

namespace Schema

variable {σ α : Type} (schema : Schema σ α)

/-- How the value of a member is read: members that the record does not have are
skipped, and the others must not be repeated. -/
def member (name : String) (state : σ) : Except Cause (Reader σ) :=
  match schema.slots.find? (·.name == name) with
  | none => .ok fun text => do
      let (_, rest) ← skipValue text
      .ok (state, rest)
  | some slot =>
      if slot.isFilled state then .error (.repeatedMember name) else .ok (slot.read state)

/-- Reads the members of a record from behind the opening brace of an object. -/
def readObject (text : List Char) : Except Fault (α × List Char) := do
  let (state, rest) ← readObjectBody schema.member schema.empty text
  match schema.ofMembers state with
  | .ok value => .ok (value, rest)
  | .error cause => .error (Fault.before cause rest)

/-- Reads elements into slots for as long as there are both. -/
def readSlots : List (Slot σ) → Nat → σ → List Char → Except Fault (σ × List Char)
  | [], _, state, text => .ok (state, text)
  | slot :: slots, index, state, text => do
      let (more, rest) ← nextElement (index == 0) text
      if more then
        let (state, rest) ← below (.element index) (slot.read state rest)
        readSlots slots (index + 1) state rest
      else .ok (state, rest)

/-- Reads the members of a record from behind the opening bracket of an array. -/
def readArray (text : List Char) : Except Fault (α × List Char) := do
  let (state, rest) ← readSlots schema.slots 0 schema.empty text
  match schema.ofElements state with
  | .ok value => do
      let (_, rest) ← closeArray rest
      .ok (value, rest)
  | .error cause => do
      let (_, rest) ← closeArray rest
      .error (Fault.before cause rest)

/-- Reads a record. -/
def read : Reader α := fun text =>
  match skipBlanks text with
  | '{' :: rest => schema.readObject rest
  | '[' :: rest => schema.readArray rest
  | other => mismatch ("struct " ++ schema.name) other

end Schema

end Memberwise.Json
