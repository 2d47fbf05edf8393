import Memberwise.Conversion
import Memberwise.Template.Basic

/-!
# The two conversions of a class

The members that convert an object to a map and back.  Each is a fixed skeleton
around one line for each field, in the order of the fields.

Main definitions:

- {lit}`toMapMember`: the conversion to a map.
- {lit}`fromMapMember`: the conversion from a map.
- {lit}`mapTemplate`: both together.
-/

namespace Memberwise.Template

open Memberwise.Layout

/-! ## The key mapper -/

/-- The declaration of the key mapper as an optional parameter. -/
def keyMapperParameter (names : Names) : String :=
  "String Function(String " ++ names.keyVariable ++ ")? " ++ names.keyMapper ++ ","

/-- The statement that makes a missing key mapper the identity. -/
def keyMapperDefault (names : Names) : String :=
  names.keyMapper ++ " ??= (" ++ names.keyVariable ++ ") => " ++ names.keyVariable ++ ";"

/-! ## Conversion to a map -/

/-- The steps up to the body of the conversion to a map. -/
def toMapHeader (config : Config) : List Step :=
  let name := config.names.toMap
  if config.options.addKeyMapper then
    [.opening ("Map<String, dynamic> " ++ name ++ "(\x7b"),
      .line (keyMapperParameter config.names),
      .reopening "\x7d) \x7b",
      .line (keyMapperDefault config.names),
      .blank]
  else
    [.opening ("Map<String, dynamic> " ++ name ++ "() \x7b")]

/-- The body of the conversion to a map, given the lines of its entries. -/
def toMapBody : List String → List Step
  | [] => [.line "return \x7b\x7d;"]
  | entries => .opening "return \x7b" :: entries.map .line ++ [.closing "\x7d;"]

/-- The steps of the conversion to a map. -/
def toMapSteps (fields : List Field) (config : Config) : List Step :=
  toMapHeader config
    ++ toMapBody (fields.map fun field => (Entry.ofField config field).text)
    ++ [.closing "\x7d"]

/-- The member that converts an object to a map. -/
def toMapMember (fields : List Field) (config : Config) : Member where
  name := config.names.toMap
  lines := Layout.lines 0 (toMapSteps fields config)

/-! ## Conversion from a map -/

/-- The steps up to the body of the conversion from a map. -/
def fromMapHeader (className : String) (config : Config) : List Step :=
  let names := config.names
  if config.options.addKeyMapper then
    [.opening ("factory " ++ className ++ "." ++ names.fromMap ++ "("),
      .line ("Map<String, dynamic> " ++ names.mapVariable ++ ", \x7b"),
      .line (keyMapperParameter names),
      .reopening "\x7d) \x7b",
      .line (keyMapperDefault names),
      .blank]
  else
    [.opening ("factory " ++ className ++ "." ++ names.fromMap
      ++ "(Map<String, dynamic> " ++ names.mapVariable ++ ") \x7b")]

/-- The constructor as it is called. -/
def constructorCall (className : String) (options : Options) : String :=
  if options.useNewKeyword then "new " ++ className else className

/-- The body of the conversion from a map, given the lines of its arguments. -/
def fromMapBody (call : String) : List String → List Step
  | [] => [.line ("return " ++ call ++ "();")]
  | arguments =>
      .opening ("return " ++ call ++ "(") :: arguments.map .line ++ [.closing ");"]

/-- The steps of the conversion from a map. -/
def fromMapSteps (className : String) (fields : List Field) (config : Config) :
    List Step :=
  fromMapHeader className config
    ++ fromMapBody (constructorCall className config.options)
      (fields.map fun field => (NamedArgument.ofField config field).text)
    ++ [.closing "\x7d"]

/-- The member that converts a map to an object. -/
def fromMapMember (className : String) (fields : List Field) (config : Config) :
    Member where
  name := config.names.fromMap
  lines := Layout.lines 0 (fromMapSteps className fields config)

/-- Both conversions, which always travel together. -/
def mapTemplate (className : String) (fields : List Field) (config : Config) :
    Template where
  kind := .mapTemplate
  members := [toMapMember fields config, fromMapMember className fields config]

end Memberwise.Template
