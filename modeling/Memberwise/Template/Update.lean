import Memberwise.Config
import Memberwise.Field
import Memberwise.Template.Basic

/-!
# The partial update of a class

The member that overwrites those fields for which it is given a value.  Every
argument is optional, and null leaves the field as it is.

Main definitions:

- {lit}`Assignment`: the statement that updates one field.
- {lit}`applyMember`: the update.
-/

namespace Memberwise.Template

open Memberwise.Dart Memberwise.Layout

/-! ## Parameters and assignments -/

/-- The type of a parameter for values of a type: it admits null, as
{lit}`dynamic` does already. -/
def parameterType : DartType → String
  | .scalar .dynamic _ => Scalar.name .dynamic
  | type => type.orNull.text

/-- A parameter of the update. -/
structure Parameter where
  type : String
  name : String
deriving DecidableEq, Repr

/-- The parameter through which a field is updated. -/
def Parameter.ofField (field : Field) : Parameter where
  type := parameterType field.type
  name := field.publicName

/-- The line that declares a parameter. -/
def Parameter.text (parameter : Parameter) : String :=
  parameter.type ++ " " ++ parameter.name ++ ","

/-- The statement that stores a parameter in a field unless it is null. -/
structure Assignment where
  target : String
  parameter : String
deriving DecidableEq, Repr

/-- The assignment that updates a field. -/
def Assignment.ofField (field : Field) : Assignment where
  target := field.storageName
  parameter := field.publicName

/-- The line of an assignment. -/
def Assignment.text (assignment : Assignment) : String :=
  "if (" ++ assignment.parameter ++ " != null) this." ++ assignment.target ++ " = "
    ++ assignment.parameter ++ ";"

/-! ## The member -/

/-- The steps up to the last statement of the update. -/
def applyBody (className name : String) : List Field → List Step
  | [] => [.opening (className ++ " " ++ name ++ "() \x7b")]
  | fields =>
      .opening (className ++ " " ++ name ++ "(\x7b")
        :: (fields.map fun field => .line (Parameter.ofField field).text)
        ++ .reopening "\x7d) \x7b"
        :: (fields.map fun field => .line (Assignment.ofField field).text)

/-- The steps of the update. -/
def applySteps (className : String) (fields : List Field) (config : Config) :
    List Step :=
  applyBody className config.names.apply fields ++ [.line "return this;", .closing "\x7d"]

/-- The member that updates an object. -/
def applyMember (className : String) (fields : List Field) (config : Config) :
    Member where
  name := config.names.apply
  lines := Layout.lines 0 (applySteps className fields config)

/-- The template of the update. -/
def applyTemplate (className : String) (fields : List Field) (config : Config) :
    Template where
  kind := .applyMethod
  members := [applyMember className fields config]

end Memberwise.Template
