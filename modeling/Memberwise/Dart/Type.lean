/-!
# Declared types

The tree of a declared Dart type.  Every level of the tree carries its own
nullability, and a type that is neither a scalar nor a collection names a user
model.

Main definitions:

- {lit}`DartType`: the tree.
- {lit}`DartType.text`: the canonical spelling of a type.
-/

namespace Memberwise.Dart

/-! ## Scalars -/

/-- The types whose values are stored in a map as they are. -/
inductive Scalar where
  | int
  | double
  | num
  | string
  | bool
  | dynamic
  | dateTime
deriving DecidableEq, Repr

namespace Scalar

/-- All scalars. -/
def all : List Scalar :=
  [int, double, num, string, bool, dynamic, dateTime]

/-- The name of a scalar in source code. -/
def name : Scalar → String
  | int => "int"
  | double => "double"
  | num => "num"
  | string => "String"
  | bool => "bool"
  | dynamic => "dynamic"
  | dateTime => "DateTime"

/-- The scalar with exactly the given name. -/
def ofName? (text : String) : Option Scalar :=
  all.find? fun scalar => scalar.name == text

/-- A scalar is found by its name. -/
theorem ofName?_name (scalar : Scalar) : ofName? scalar.name = some scalar := by
  cases scalar <;> rfl

/-- Only its own name finds a scalar. -/
theorem name_of_ofName?_eq_some {text : String} {scalar : Scalar}
    (h : ofName? text = some scalar) : scalar.name = text := by
  simpa using List.find?_some h

end Scalar

/-! ## Types -/

/-- A declared type: its shape, and whether a value of this level may be null. -/
inductive DartType where
  | scalar (name : Scalar) (nullable : Bool)
  | list (element : DartType) (nullable : Bool)
  | map (key value : DartType) (nullable : Bool)
  /-- A user model that has conversions of its own. -/
  | model (name : String) (nullable : Bool)
deriving DecidableEq, Repr

namespace DartType

/-- Whether a value of the outermost level may be null. -/
def nullable : DartType → Bool
  | scalar _ nullable => nullable
  | list _ nullable => nullable
  | map _ _ nullable => nullable
  | model _ nullable => nullable

/-- The type of the same shape whose outermost level may be null. -/
def orNull : DartType → DartType
  | scalar name _ => scalar name true
  | list element _ => list element true
  | map key value _ => map key value true
  | model name _ => model name true

/-- The mark that follows a nullable type. -/
def nullMark (nullable : Bool) : String :=
  if nullable then "?" else ""

/-- The canonical spelling of a type: one space after the comma of a map, none
elsewhere. -/
def text : DartType → String
  | scalar name nullable => name.name ++ nullMark nullable
  | list element nullable => "List<" ++ element.text ++ ">" ++ nullMark nullable
  | map key value nullable =>
      "Map<" ++ key.text ++ ", " ++ value.text ++ ">" ++ nullMark nullable
  | model name nullable => name ++ nullMark nullable

/-- The types that a type is directly made of. -/
def children : DartType → List DartType
  | scalar _ _ => []
  | list element _ => [element]
  | map key value _ => [key, value]
  | model _ _ => []

/-- The names of the user models that a type mentions at any level. -/
def modelNames : DartType → List String
  | scalar _ _ => []
  | list element _ => element.modelNames
  | map key value _ => key.modelNames ++ value.modelNames
  | model name _ => [name]

/-- The names of the user models that a type mentions below its outermost level. -/
def innerModelNames (type : DartType) : List String :=
  type.children.flatMap modelNames

/-- Forcing nullability makes the outermost level nullable. -/
@[simp]
theorem nullable_orNull (type : DartType) : type.orNull.nullable = true := by
  cases type <;> rfl

end DartType

end Memberwise.Dart
