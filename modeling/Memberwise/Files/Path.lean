/-!
# Paths

Paths as texts: the names between their slashes, the path of a child, and the steps
that lead to the directory of a file.

Main results:

- Theorem {lit}`splitSlashes_ne_nil`: a text has at least one part.
-/

namespace Memberwise.Files

/-! ## Parts -/

/-- The parts of a text between its slashes. -/
def splitSlashes : List Char → List (List Char)
  | [] => [[]]
  | c :: rest =>
      if c = '/' then [] :: splitSlashes rest
      else
        match splitSlashes rest with
        | [] => [[c]]
        | part :: parts => (c :: part) :: parts

/-- A text has at least one part. -/
theorem splitSlashes_ne_nil (text : List Char) : splitSlashes text ≠ [] := by
  cases text with
  | nil => simp [splitSlashes]
  | cons c rest =>
      by_cases hslash : c = '/'
      · simp [splitSlashes, hslash]
      · simp only [splitSlashes, if_neg hslash]
        split <;> simp

/-- The parts of a path between its slashes. -/
def parts (path : String) : List String :=
  (splitSlashes path.toList).map String.ofList

/-- The parts of a path without the empty ones at its end, which come from the slashes
that it ends in. -/
def trimEmptyEnd (parts : List String) : List String :=
  (parts.reverse.dropWhile (· = "")).reverse

/-- Whether a path starts at the root of all files. -/
def isAbsolute (path : String) : Bool :=
  path.toList.head? == some '/'

/-! ## Limits -/

/-- The greatest length of a name in a path, in bytes. -/
def maxNameLength : Nat := 255

/-- The greatest length of a path, in bytes. -/
def maxPathLength : Nat := 4095

/-- Whether a name can stand in a path. -/
def isNameShort (name : String) : Bool :=
  name.utf8ByteSize ≤ maxNameLength

/-- Whether a path can be followed. -/
def isPathShort (path : String) : Bool :=
  path.utf8ByteSize ≤ maxPathLength

/-! ## Children and parents -/

/-- The path of a child of a directory. -/
def child (directory name : String) : String :=
  if directory.toList.getLast? = some '/' then directory ++ name
  else directory ++ "/" ++ name

/-- The steps of a path: its parts without empty ones, and without those that stay
where they are, except at the start. -/
def steps (path : String) : List String :=
  match parts path with
  | [] => []
  | first :: rest =>
      let kept := rest.filter fun part => part ≠ "" ∧ part ≠ "."
      if first = "" then kept else first :: kept

/-- The steps to the directory that holds a path. -/
def parentSteps (path : String) : List String :=
  (steps path).dropLast

/-- Some parts of a path without those at their end that stay where they are, the first
part excepted. -/
def trimIdleEnd : List String → List String
  | [] => []
  | first :: rest =>
      first :: (rest.reverse.dropWhile fun part => part = "" ∨ part = ".").reverse

/-- The path of the directory that holds a path, as it is written up to there. -/
def parent (path : String) : String :=
  "/".intercalate (trimIdleEnd (trimIdleEnd (parts path)).dropLast)

end Memberwise.Files
