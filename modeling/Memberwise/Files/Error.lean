/-!
# File errors

What can go wrong when files are read and written.

Main definitions:

- {lit}`FileError`: the errors.
- {lit}`FileError.message`: their wording.
-/

namespace Memberwise.Files

/-- Why a file could not be read or written. -/
inductive FileError where
  | notFound
  | alreadyExists
  | notDirectory
  | isDirectory
  /-- A name or a whole path has too many bytes. -/
  | nameTooLong
  /-- The bytes of a file are not text in UTF-8. -/
  | notText
  /-- Any other error of the system. -/
  | other (message : String)
deriving DecidableEq, Repr

/-- The wording of a file error. -/
def FileError.message : FileError → String
  | notFound => "No such file or directory (os error 2)"
  | alreadyExists => "File exists (os error 17)"
  | notDirectory => "Not a directory (os error 20)"
  | isDirectory => "Is a directory (os error 21)"
  | nameTooLong => "File name too long (os error 36)"
  | notText => "stream did not contain valid UTF-8"
  | other message => message

end Memberwise.Files
