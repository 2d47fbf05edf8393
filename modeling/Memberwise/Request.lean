import Memberwise.Template.Description
import Memberwise.Template.Mapping
import Memberwise.Template.Update

/-!
# Generation requests

A request names a class, its fields and the members it has already.  It either
yields every template that was asked for or fails as a whole.

Main results:

- Theorem {lit}`nodup_distinct`: every kind is generated at most once.
-/

namespace Memberwise

/-! ## Fields of a request -/

/-- Signatures by field name, in the order in which the names were first given.
A missing signature stands for a type that could not be determined. -/
abbrev Shorthand := List (String × Option String)

/-- Gives a name a signature.  A name that is present already keeps its place. -/
def Shorthand.put (fields : Shorthand) (name : String) (signature : Option String) :
    Shorthand :=
  match fields with
  | [] => [(name, signature)]
  | entry :: rest =>
      if entry.1 = name then (name, signature) :: rest
      else entry :: Shorthand.put rest name signature

/-- The fields of a request: described one by one, or by their signatures only. -/
inductive FieldList where
  | detailed (specs : List FieldSpec)
  | shorthand (signatures : Shorthand)
deriving DecidableEq, Repr

/-- The descriptions of the fields of a request. -/
def FieldList.specs : FieldList → List FieldSpec
  | detailed specs => specs
  | shorthand signatures =>
      signatures.map fun entry => { storageName := entry.1, signature? := entry.2 }

/-- A request to generate members for a class. -/
structure Request where
  className : String
  fields : FieldList := .detailed []
  /-- The names of the members that the class declares already. -/
  existingMembers : List String := []
deriving DecidableEq, Repr

/-- The fields of a request, or the first rejection in their order. -/
def Request.resolve (request : Request) : Except Rejection (List Field) :=
  request.fields.specs.mapM FieldSpec.resolve

/-! ## Generation -/

/-- The distinct elements of a list in the order of their first occurrence. -/
def distinct {α : Type} [DecidableEq α] : List α → List α
  | [] => []
  | a :: rest => a :: (distinct rest).filter (· ≠ a)

/-- Nothing occurs twice among the distinct elements of a list. -/
theorem nodup_distinct {α : Type} [DecidableEq α] (list : List α) :
    (distinct list).Nodup := by
  induction list with
  | nil => simp [distinct]
  | cons a rest ih =>
      simp only [distinct, List.nodup_cons, List.mem_filter]
      exact ⟨by simp, List.Pairwise.filter _ ih⟩

/-- The template of a kind. -/
def templateOf (kind : TemplateKind) (className : String) (fields : List Field)
    (config : Config) : Template :=
  match kind with
  | .mapTemplate => Template.mapTemplate className fields config
  | .applyMethod => Template.applyTemplate className fields config
  | .toString => Template.toStringTemplate className fields config

/-- Checks the name of a class. -/
def checkClassName (className : String) : Except Rejection Unit :=
  if Text.isIdentifier className then .ok ()
  else .error (.invalidName .ofClass className)

/-- The templates of the distinct kinds among those asked for. -/
def templates (className : String) (fields : List Field) (config : Config)
    (kinds : List TemplateKind) : Except Rejection (List Template) := do
  checkClassName className
  return (distinct kinds).map fun kind => templateOf kind className fields config

/-- Answers a request.  All fields are checked before the name of the class. -/
def generate (request : Request) (config : Config) (kinds : List TemplateKind) :
    Except Rejection (List Template) := do
  let fields ← request.resolve
  let generated ← templates request.className fields config kinds
  return generated.map (·.replacing request.existingMembers)

end Memberwise
