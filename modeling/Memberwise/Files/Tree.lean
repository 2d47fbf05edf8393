import Memberwise.Files.Spot

/-!
# File trees

A tree of files and directories, together with the directory at which relative paths
start, and what can be done with its files by their paths.

Main definitions:

- {lit}`Tree.readFile`, {lit}`Tree.children` and {lit}`Tree.isDirectory?`: what stands
  where a path leads.
- {lit}`Tree.makeParents` and {lit}`Tree.writeFile`: the changes.
-/

namespace Memberwise.Files

/-- A tree of files and directories. -/
structure Tree where
  root : Children := []
  /-- The names that lead from the root to where relative paths start. -/
  start : List String := []

namespace Tree

/-- The tree after a change at a spot. -/
def after (tree : Tree) (spot : Spot) : Tree :=
  { tree with root := spot.root }

/-- A tree with nothing but the directories down to the start of relative paths. -/
def empty (start : List String) : Tree :=
  let (spot, _) := (Spot.ofRoot []).makeDirectories false start
  { root := spot.root, start := start }

/-! ## Resolution -/

/-- The spot at which a path starts. -/
def origin (tree : Tree) (path : String) : Except FileError Spot :=
  (Spot.ofRoot tree.root).walk (if isAbsolute path then [] else tree.start)

/-- The spot that a path leads to. -/
def resolve (tree : Tree) (path : String) : Except FileError Spot :=
  if path = "" then .error .notFound
  else if !isPathShort path then .error .nameTooLong
  else
    match tree.origin path with
    | .error error => .error error
    | .ok spot => spot.walk (parts path)

/-- The entry that a path leads to. -/
def entryAt (tree : Tree) (path : String) : Except FileError Entry :=
  match tree.resolve path with
  | .error error => .error error
  | .ok spot =>
      match spot.entry with
      | none => .error .notFound
      | some entry => .ok entry

/-- Whether a path leads to a directory, or to a file; nothing if it leads nowhere. -/
def isDirectory? (tree : Tree) (path : String) : Option Bool :=
  match tree.entryAt path with
  | .error _ => none
  | .ok entry => some entry.isDirectory

/-- Reads a file. -/
def readFile (tree : Tree) (path : String) : Except FileError ByteArray :=
  match tree.entryAt path with
  | .error error => .error error
  | .ok (.directory _) => .error .isDirectory
  | .ok (.file bytes) => .ok bytes

/-- The names in a directory, and whether each is a directory itself. -/
def children (tree : Tree) (path : String) : Except FileError (List (String × Bool)) :=
  match tree.entryAt path with
  | .error error => .error error
  | .ok (.file _) => .error .notDirectory
  | .ok (.directory children) =>
      .ok (children.map fun (name, entry) => (name, entry.isDirectory))

/-! ## Changes -/

/-- Makes the directory that holds a path and those on the way to it, where they are
missing.  Directories that were made stay even if a later one fails. -/
def makeParents (tree : Tree) (path : String) : Tree × Except FileError Unit :=
  if !isPathShort (parent path) then (tree, .error .nameTooLong)
  else
    match tree.origin path with
    | .error error => (tree, .error error)
    | .ok spot =>
        let (spot, result) := spot.makeDirectories false (parentSteps path)
        (tree.after spot, result)

/-- Moves to the spot of a file that is to be written.  A name that ends in a slash or
leads to a directory is refused before its length is looked at. -/
def enterFile (directory : Spot) (name : String) (endsInSlash : Bool) :
    Except FileError Spot :=
  if endsInSlash || !Spot.isChildName name then .error .isDirectory
  else
    match directory.enter name with
    | .error error => .error error
    | .ok spot =>
        match spot.entry with
        | some (.directory _) => .error .isDirectory
        | _ => .ok spot

/-- Writes a file, which replaces what it held before. -/
def writeFile (tree : Tree) (path : String) (bytes : ByteArray) : Except FileError Tree :=
  let parts := parts path
  let trimmed := trimEmptyEnd parts
  if !isPathShort path then .error .nameTooLong
  else
    match trimmed.getLast? with
    | none => if path = "" then .error .notFound else .error .isDirectory
    | some name => do
        let directory ← (← tree.origin path).walk (trimmed.dropLast ++ [""])
        let spot ← enterFile directory name (trimmed ≠ parts)
        return tree.after (spot.put (.file bytes))

/-- Puts a file at a path, with the directories on the way to it.  Where no file can be,
nothing but these directories is made. -/
def putFile (tree : Tree) (path : String) (bytes : ByteArray) : Tree :=
  let (tree, _) := tree.makeParents path
  match tree.writeFile path bytes with
  | .error _ => tree
  | .ok tree => tree

end Tree

end Memberwise.Files
