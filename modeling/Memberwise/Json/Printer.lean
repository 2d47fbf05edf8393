import Memberwise.Json.Reader

/-!
# Printing JSON

Values as they are printed: every element and every member on a line of its own,
indented by two spaces for each level.

Main results:

- Theorem {lit}`Value.before_eq_append`: a value is printed the same way in front of any
  text.
-/

namespace Memberwise.Json

/-- A value that is printed. -/
inductive Value where
  | boolean (value : Bool)
  | string (value : String)
  | array (elements : List Value)
  | object (members : List (String × Value))
deriving Repr

/-! ## Strings -/

/-- The hexadecimal digit of a number below sixteen. -/
def hexDigit (n : Nat) : Char :=
  Nat.digitChar n

/-- How a character is printed inside a string: only the quote, the backslash and the
control characters are escaped. -/
def printedChar (c : Char) : List Char :=
  if c = '"' ∨ c = '\\' then ['\\', c]
  else if c = '\x08' then ['\\', 'b']
  else if c = '\x0c' then ['\\', 'f']
  else if c = '\n' then ['\\', 'n']
  else if c = '\r' then ['\\', 'r']
  else if c = '\t' then ['\\', 't']
  else if c.toNat < 0x20 then
    ['\\', 'u', '0', '0', hexDigit (c.toNat / 16), hexDigit (c.toNat % 16)]
  else [c]

/-- The characters of a printed string. -/
def printedString (value : String) : List Char :=
  '"' :: (value.toList.flatMap printedChar ++ ['"'])

/-! ## Values -/

/-- The start of a new line at a depth. -/
def newLine (depth : Nat) : List Char :=
  '\n' :: List.replicate (2 * depth) ' '

mutual

/-- The characters of a value at a depth, in front of some others. -/
def Value.before (depth : Nat) (rest : List Char) : Value → List Char
  | .boolean value => (if value then "true" else "false").toList ++ rest
  | .string value => printedString value ++ rest
  | .array [] => '[' :: ']' :: rest
  | .array (element :: elements) =>
      '[' :: (newLine (depth + 1) ++ element.before (depth + 1)
        (elementsBefore (depth + 1) (newLine depth ++ ']' :: rest) elements))
  | .object [] => '{' :: '}' :: rest
  | .object (member :: members) =>
      '{' :: (newLine (depth + 1) ++ printedString member.1 ++ ':' :: ' '
        :: member.2.before (depth + 1)
          (membersBefore (depth + 1) (newLine depth ++ '}' :: rest) members))

/-- The characters of the elements behind the first one, in front of some others. -/
def elementsBefore (depth : Nat) (rest : List Char) : List Value → List Char
  | [] => rest
  | element :: elements =>
      ',' :: (newLine depth ++ element.before depth (elementsBefore depth rest elements))

/-- The characters of the members behind the first one, in front of some others. -/
def membersBefore (depth : Nat) (rest : List Char) : List (String × Value) → List Char
  | [] => rest
  | member :: members =>
      ',' :: (newLine depth ++ printedString member.1 ++ ':' :: ' '
        :: member.2.before depth (membersBefore depth rest members))

end

mutual

/-- What stands behind a value is no part of it. -/
theorem Value.before_eq_append (depth : Nat) (rest : List Char) :
    (value : Value) → value.before depth rest = value.before depth [] ++ rest
  | .boolean value => by simp [Value.before]
  | .string value => by simp [Value.before]
  | .array [] => by simp [Value.before]
  | .array (element :: elements) => by
      simp only [Value.before]
      rw [elementsBefore_eq_append, element.before_eq_append,
        elementsBefore_eq_append _ (newLine depth ++ [']']),
        element.before_eq_append _ (_ ++ (newLine depth ++ [']']))]
      simp
  | .object [] => by simp [Value.before]
  | .object (member :: members) => by
      simp only [Value.before]
      rw [membersBefore_eq_append, member.2.before_eq_append,
        membersBefore_eq_append _ (newLine depth ++ ['}']),
        member.2.before_eq_append _ (_ ++ (newLine depth ++ ['}']))]
      simp

/-- What stands behind some elements is no part of them. -/
theorem elementsBefore_eq_append (depth : Nat) (rest : List Char) :
    (elements : List Value) →
      elementsBefore depth rest elements = elementsBefore depth [] elements ++ rest
  | [] => by simp [elementsBefore]
  | element :: elements => by
      simp only [elementsBefore]
      rw [elementsBefore_eq_append, element.before_eq_append,
        element.before_eq_append _ (elementsBefore depth [] elements)]
      simp

/-- What stands behind some members is no part of them. -/
theorem membersBefore_eq_append (depth : Nat) (rest : List Char) :
    (members : List (String × Value)) →
      membersBefore depth rest members = membersBefore depth [] members ++ rest
  | [] => by simp [membersBefore]
  | member :: members => by
      simp only [membersBefore]
      rw [membersBefore_eq_append, member.2.before_eq_append,
        member.2.before_eq_append _ (membersBefore depth [] members)]
      simp

end

/-- The characters of a value at a depth. -/
def Value.chars (depth : Nat) (value : Value) : List Char :=
  value.before depth []

/-- The text of a value. -/
def Value.pretty (value : Value) : String :=
  String.ofList (value.chars 0)

end Memberwise.Json
