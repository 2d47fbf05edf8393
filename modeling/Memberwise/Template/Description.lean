import Memberwise.Config
import Memberwise.Dart.Literal
import Memberwise.Field
import Memberwise.Template.Basic

/-!
# The description of an object

The member that describes an object by the name of its class and the values of
its fields.

Main definitions:

- {lit}`descriptionPieces`: what the description consists of.
- {lit}`toStringMember`: the member.
-/

namespace Memberwise.Template

open Memberwise.Dart Memberwise.Layout

/-- The pieces that describe one field: its name and its value. -/
def fieldPieces (field : Field) : List Piece :=
  [.plain field.storageName, .plain ": ", .value field.storageName]

/-- The pieces that describe an object. -/
def descriptionPieces (className : String) (fields : List Field) : List Piece :=
  .plain className :: .plain "\x7b"
    :: [Piece.plain ", "].intercalate (fields.map fieldPieces)
    ++ [.plain "\x7d"]

/-- The steps of the description. -/
def toStringSteps (className : String) (fields : List Field) (config : Config) :
    List Step :=
  [.line "@override",
    .opening ("String " ++ config.names.toString ++ "() \x7b"),
    .line ("return " ++ doubleQuoted (descriptionPieces className fields) ++ ";"),
    .closing "\x7d"]

/-- The member that describes an object. -/
def toStringMember (className : String) (fields : List Field) (config : Config) :
    Member where
  name := config.names.toString
  lines := Layout.lines 0 (toStringSteps className fields config)

/-- The template of the description. -/
def toStringTemplate (className : String) (fields : List Field) (config : Config) :
    Template where
  kind := .toString
  members := [toStringMember className fields config]

end Memberwise.Template
