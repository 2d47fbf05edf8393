import Memberwise.Field
import Memberwise.Files.Error
import Memberwise.Json.Record

/-!
# Documents

A document is a text with an origin.  One value is read from its front, and what
follows that value is not looked at.

Main definitions:

- {lit}`DocumentError`: why a document is refused.
- {lit}`readDocument`: the value of a document.
-/

namespace Memberwise

/-- What is wrong with a document. -/
inductive DocumentProblem where
  /-- The document could not be read. -/
  | unreadable (error : Files.FileError)
  /-- The text is not a document of the wanted shape. -/
  | invalid (fault : Json.Fault) (source : List Char)
  /-- The document describes a field that is refused. -/
  | rejected (rejection : Rejection)
deriving DecidableEq, Repr

/-- The wording of a problem.  A refused field has no position in the document. -/
def DocumentProblem.message : DocumentProblem → String
  | unreadable error => error.message
  | invalid fault source => fault.message source
  | rejected rejection => "at JSON path " ++ Json.Path.text [] ++ " → " ++ rejection.message

/-- Why a document is refused, with the origin of the document. -/
structure DocumentError where
  origin : String
  problem : DocumentProblem
deriving DecidableEq, Repr

/-- The wording of a refusal. -/
def DocumentError.message (error : DocumentError) : String :=
  error.origin ++ ": " ++ error.problem.message

/-- Reads the value at the front of a document. -/
def readDocument {α : Type} (read : Json.Reader α) (origin source : String) :
    Except DocumentError α :=
  match read source.toList with
  | .ok (value, _) => .ok value
  | .error fault => .error ⟨origin, .invalid fault source.toList⟩

end Memberwise
