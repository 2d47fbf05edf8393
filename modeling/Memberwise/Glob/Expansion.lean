import Memberwise.Files.Lookup
import Memberwise.Glob.Pattern

/-!
# Expansion of patterns

The paths that a pattern stands for, directory by directory: the entries of a directory
in the order of their names, hidden ones included, and a directory before what lies
below it.

Main definitions:

- {lit}`components`: the patterns between the slashes of a text.
- {lit}`Unreadable`: a directory on the way that cannot be read.
- {lit}`expand`: the paths that a text stands for.
-/

namespace Memberwise.Glob

open Memberwise.Files

/-! ## Components -/

/-- Whether a text is a pattern and not a path. -/
def isPattern (text : String) : Bool :=
  text.toList.any fun c => c == '*' || c == '?' || c == '[' || c == '{'

/-- The components of a pattern, which may start at the root and may end in a slash. -/
structure Components where
  isAbsolute : Bool
  patterns : List Pattern
  /-- Only directories are wanted. -/
  wantsDirectory : Bool
deriving DecidableEq, Repr

/-- The texts between the slashes of a pattern; a slash at the end is followed by
nothing. -/
def componentTexts (text : List Char) : List (List Char) :=
  let parts := splitSlashes text
  if parts.getLast? = some [] then parts.dropLast else parts

/-- Cuts a text into patterns.  The whole text is checked before its parts are. -/
def components (text : String) : Except PatternError Components := do
  let chars := text.toList
  let _ ← readPattern chars
  let relative := if isAbsolute text then chars.drop 1 else chars
  let patterns ← (componentTexts relative).mapM readPattern
  return ⟨isAbsolute text, patterns, chars.getLast? == some '/'⟩

/-! ## Paths -/

/-- The path of a child; the current directory, however it is written, is not
mentioned. -/
def childPath (directory name : String) : String :=
  if steps directory = ["."] then name else child directory name

/-- A directory that cannot be read. -/
structure Unreadable where
  path : String
  error : FileError
deriving DecidableEq, Repr

/-- The wording of a directory that cannot be read. -/
def Unreadable.message (unreadable : Unreadable) : String :=
  "attempting to read `" ++ unreadable.path ++ "` resulted in an error: "
    ++ unreadable.error.message

/-- A path that was found, or a directory in which none could be looked for. -/
abbrev Find := Except Unreadable String

/-- Whether a path is wanted as a result. -/
def isWanted (wantsDirectory : Bool) (path : String) : Lookup Bool :=
  if wantsDirectory then Lookup.pathIsDirectory path else pure true

/-- The names for a directory itself and for the one above it, the latter first, if a
pattern that begins with a point matches them. -/
def specialNames (pattern : Pattern) : List String :=
  match pattern with
  | .exactly '.' :: _ => ["..", "."].filter fun name => matchesName pattern name.toList
  | _ => []

mutual

/-- The results below a path for the patterns that are left, none of which has been
looked at. -/
def fill (wantsDirectory : Bool) : Nat → List Pattern → String → Bool → Lookup (List Find)
  | 0, _, _, _ => pure []
  | _, [], _, _ => pure []
  | bound + 1, pattern :: patterns, path, isDirectory =>
      match literal? pattern with
      | some chars => do
          let name := String.ofList chars
          let next := childPath path name
          let isThere ←
            if name = "." ∨ name = ".." then pure isDirectory else Lookup.pathExists next
          if isThere then accept wantsDirectory bound patterns next else pure []
      | none =>
          if isDirectory then do
            match ← Lookup.sortedChildren path with
            | .error error => return [.error ⟨path, error⟩]
            | .ok entries =>
                let special ← (specialNames pattern).mapM fun name =>
                  accept wantsDirectory bound patterns (child path name)
                let found ← entries.mapM fun (name, isDirectory) =>
                  visit wantsDirectory bound (pattern :: patterns) (childPath path name) name
                    isDirectory
                return special.flatten ++ found.flatten
          else pure []

/-- The results at or below a path whose last name is known to match. -/
def accept (wantsDirectory : Bool) : Nat → List Pattern → String → Lookup (List Find)
  | 0, _, _ => pure []
  | bound + 1, patterns, path => do
      if patterns.isEmpty then
        return if ← isWanted wantsDirectory path then [.ok path] else []
      else
        fill wantsDirectory bound patterns path (← Lookup.pathIsDirectory path)

/-- The results at or below a child of a directory, whose name has not been compared
with the first pattern yet. -/
def visit (wantsDirectory : Bool) :
    Nat → List Pattern → String → String → Bool → Lookup (List Find)
  | 0, _, _, _, _ => pure []
  | _, [], _, _, _ => pure []
  | bound + 1, pattern :: patterns, path, name, isDirectory =>
      if isRecursive pattern then do
        let patterns := patterns.dropWhile isRecursive
        let inside ←
          if isDirectory then fill wantsDirectory bound (pattern :: patterns) path true
          else pure []
        if patterns.isEmpty then
          return if isDirectory then .ok path :: inside else []
        else
          let own ← visit wantsDirectory bound patterns path name isDirectory
          return own ++ inside
      else if matchesName pattern name.toList then
        if patterns.isEmpty then
          return if !wantsDirectory || isDirectory then [.ok path] else []
        else fill wantsDirectory bound patterns path isDirectory
      else pure []

end

/-- The paths that a pattern stands for, unless a directory on the way to one cannot be
read.  Every step makes the path longer or uses up a pattern, so their number is
bounded. -/
def expand (text : String) :
    Except PatternError (Lookup (Except Unreadable (List String))) := do
  let components ← components text
  let start := if components.isAbsolute then "/" else "."
  let bound := 3 * (maxPathLength + components.patterns.length + 1)
  return do
    let finds ← fill components.wantsDirectory bound components.patterns start true
    return finds.mapM id

end Memberwise.Glob
