import Memberwise.Command.Run

/-!
# The command line

The program on the real file system: the questions of a run are answered by the
system, and what it came to is printed or written.

Main definitions:

- {lit}`Files.Lookup.perform`: a computation on the real file system.
- {lit}`Command.Plan.perform`: the end of a run on the real file system.
-/

namespace Memberwise

/-! ## Questions -/

namespace Files

/-- The file error that the system reports. -/
def FileError.ofSystem : IO.Error → FileError
  | .noFileOrDirectory _ _ _ => .notFound
  | .alreadyExists _ _ _ => .alreadyExists
  | .inappropriateType _ code details => ofCode code details
  | .invalidArgument _ code details => ofCode code details
  | .otherError code details => ofCode code details
  | error => .other (toString error)
where
  /-- Some actions report the number of an error with the opposite sign. -/
  ofCode (code : UInt32) (details : String) : FileError :=
    let number := min code (0 - code)
    if number = 20 then .notDirectory
    else if number = 21 then .isDirectory
    else if number = 36 then .nameTooLong
    else .other (details ++ " (os error " ++ Nat.repr number.toNat ++ ")")

/-- Tries an action of the system. -/
def attempt {α : Type} (action : IO α) : BaseIO (Except FileError α) := do
  match ← action.toBaseIO with
  | .ok value => return .ok value
  | .error error => return .error (.ofSystem error)

/-- The entry of a directory. -/
def entryOf (directory name : String) : IO.FS.DirEntry where
  root := directory
  fileName := name

/-- Whether a path leads to a directory, or to a file; nothing if it leads nowhere. -/
def isDirectoryOnDisk? (path : String) : BaseIO (Option Bool) := do
  let place := (entryOf path "").root
  if ← place.isDir then return some true
  else if ← place.pathExists then return some false
  else return none

/-- The names in a directory, and whether each is a directory itself. -/
def childrenOnDisk (path : String) : BaseIO (Except FileError (List (String × Bool))) := do
  match ← attempt (entryOf path "").root.readDir with
  | .error error => return .error error
  | .ok entries =>
      let children ← entries.toList.mapM fun entry => do
        return (entry.fileName, ← entry.path.isDir)
      return .ok children

/-- Reads a stream to its end. -/
partial def readToEnd (stream : IO.FS.Stream) (start : ByteArray) : IO ByteArray := do
  let bytes ← stream.read 65536
  if bytes.isEmpty then return start else readToEnd stream (start ++ bytes)

/-- Runs a computation on the real file system. -/
def Lookup.perform {α : Type} : Lookup α → BaseIO α
  | .done value => return value
  | .readFile path next => do (next (← attempt (IO.FS.readBinFile path))).perform
  | .isDirectory path next => do (next (← isDirectoryOnDisk? path)).perform
  | .children path next => do (next (← childrenOnDisk path)).perform
  | .standardInput next => do
      let stream ← IO.getStdin
      (next (← attempt (readToEnd stream ByteArray.empty))).perform

end Files

/-! ## Endings -/

namespace Command

open Memberwise.Files

/-- Tries to make a directory; one that exists already is as good. -/
def makeDirectoryOnDisk (path : String) : BaseIO (Except FileError Unit) := do
  match ← attempt (IO.FS.createDir path) with
  | .ok () => return .ok ()
  | .error error =>
      if (← isDirectoryOnDisk? path) = some true then return .ok () else return .error error

/-- Makes the directory that some steps lead to, and those on the way that are missing.
The steps are given in reverse, below a root. -/
def makeDirectoriesOnDisk (root : String) : List String → BaseIO (Except FileError Unit)
  | [] => return .ok ()
  | last :: above => do
      let path := root ++ "/".intercalate (last :: above).reverse
      match ← makeDirectoryOnDisk path with
      | .error .notFound =>
          match ← makeDirectoriesOnDisk root above with
          | .ok () => makeDirectoryOnDisk path
          | .error error => return .error error
      | made => return made

/-- Writes a text to a file, whose directory is made if it is missing. -/
def writeOnDisk (path text : String) : BaseIO (Except Failure Unit) := do
  let root := if isAbsolute path then "/" else ""
  let made ←
    if isPathShort (parent path) then makeDirectoriesOnDisk root (parentSteps path).reverse
    else pure (.error .nameTooLong)
  match made with
  | .error error => return .error (.outputDirectory error)
  | .ok () =>
      match ← attempt (IO.FS.writeFile path text) with
      | .error error => return .error (.output path error)
      | .ok () => return .ok ()

/-- Prints a failure; the code says that the run failed. -/
def Failure.report (failure : Failure) : IO UInt32 := do
  IO.eprintln failure.line
  return 1

/-- Prints what a plan says and returns the code of the run. -/
def Plan.perform (plan : Plan) : IO UInt32 := do
  plan.messages.forM (IO.eprintln ·)
  match plan.ending with
  | .print text =>
      IO.println text
      return 0
  | .silent => return 0
  | .misuse error =>
      IO.eprintln ("error: " ++ error.message)
      return 2
  | .fail failure => failure.report
  | .write path text =>
      match ← writeOnDisk path text with
      | .ok () => return 0
      | .error failure => failure.report

/-- The environment variable that holds the filter for what is logged. -/
def filterVariable : String := "RUST_LOG"

end Command

end Memberwise

/-- Runs the program with the given arguments. -/
def main (arguments : List String) : IO UInt32 := do
  let filter ← IO.getEnv Memberwise.Command.filterVariable
  let plan ← (Memberwise.Command.plan filter arguments).perform
  plan.perform
