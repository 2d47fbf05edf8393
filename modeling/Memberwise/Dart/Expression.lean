import Memberwise.Dart.Literal
import Memberwise.Dart.Type

/-!
# Expressions

The expressions that conversions between objects and maps are written in, and
their spelling.  A tree keeps what the spelling only shows by brackets: which
closure a variable is bound by, and what is read at each place.

Main definitions:

- {lit}`Expression`: the tree.
- {lit}`Expression.text`: its spelling.
-/

namespace Memberwise.Dart

/-- An expression of a conversion. -/
inductive Expression where
  /-- A variable, or any source text that stands for a value. -/
  | reference (text : String)
  /-- A string literal without interpolation. -/
  | literal (text : String)
  /-- A function of one argument, applied. -/
  | apply (function : String) (argument : Expression)
  /-- The value of a map under a key. -/
  | index (map key : Expression)
  | cast (operand : Expression) (type : DartType)
  | parenthesized (inner : Expression)
  /-- The list of the images of all elements of a list. -/
  | mapElements (target : Expression) (nullAware : Bool) (element : String)
      (body : Expression)
  /-- The map with the same keys and the images of all values. -/
  | mapValues (target : Expression) (nullAware : Bool) (key value : String)
      (body : Expression)
  /-- The conversion of a model to a map. -/
  | toMap (target : Expression) (nullAware : Bool) (method : String)
      (keyMapper : Option String)
  /-- The conversion of a map to a model. -/
  | fromMap (model method : String) (source : Expression) (keyMapper : Option String)
  /-- Null where the subject is null, and the body elsewhere. -/
  | unlessNull (subject body : Expression)
deriving DecidableEq, Repr

namespace Expression

/-- Member access, which a null-aware access skips on null. -/
def accessMark (nullAware : Bool) : String :=
  if nullAware then "?." else "."

/-- The named argument that passes a key mapper on under its own name. -/
def forwarded (keyMapper : String) : String :=
  keyMapper ++ ": " ++ keyMapper

/-- The spelling of an expression. -/
def text : Expression → String
  | reference text => text
  | literal text => singleQuoted text
  | apply function argument => function ++ "(" ++ argument.text ++ ")"
  | index map key => map.text ++ "[" ++ key.text ++ "]"
  | cast operand type => operand.text ++ " as " ++ type.text
  | parenthesized inner => "(" ++ inner.text ++ ")"
  | mapElements target nullAware element body =>
      target.text ++ accessMark nullAware ++ "map((" ++ element ++ ") => "
        ++ body.text ++ ").toList()"
  | mapValues target nullAware key value body =>
      target.text ++ accessMark nullAware ++ "map((" ++ key ++ ", " ++ value
        ++ ") => MapEntry(" ++ key ++ ", " ++ body.text ++ "))"
  | toMap target nullAware method keyMapper =>
      target.text ++ accessMark nullAware ++ method ++ "("
        ++ (keyMapper.map forwarded).getD "" ++ ")"
  | fromMap model method source keyMapper =>
      model ++ "." ++ method ++ "(" ++ source.text
        ++ (keyMapper.map fun mapper => ", " ++ forwarded mapper).getD "" ++ ")"
  | unlessNull subject body => subject.text ++ " == null ? null : " ++ body.text

end Expression

end Memberwise.Dart
