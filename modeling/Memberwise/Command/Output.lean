import Memberwise.Json.Printer
import Memberwise.Request

/-!
# Output

The two forms in which generated templates are printed, and the form of a classified
signature.

Main definitions:

- {lit}`Generated.allText`: the code of all templates.
- {lit}`Generated.allJson`: classes, templates, members and code as JSON.
- {lit}`typeValue`: the tree of a type as JSON.
-/

namespace Memberwise.Command

open Memberwise.Json Memberwise.Dart

/-! ## Generated classes -/

/-- What was generated for a class. -/
structure Generated where
  className : String
  templates : List Template
deriving DecidableEq, Repr

namespace Generated

/-- The code of all templates, separated by blank lines. -/
def allText (classes : List Generated) : String :=
  "\n\n".intercalate (classes.flatMap fun generated => generated.templates.map Template.render)

/-- A template as it is printed. -/
def templateValue (template : Template) : Value :=
  .object
    [("kind", .string template.kind.name),
      ("members", .array (template.memberNames.map .string)),
      ("delete", .array (template.delete.map .string)),
      ("code", .string template.render)]

/-- A class as it is printed. -/
def value (generated : Generated) : Value :=
  .object
    [("className", .string generated.className),
      ("templates", .array (generated.templates.map templateValue))]

/-- All classes as JSON. -/
def allJson (classes : List Generated) : String :=
  (Value.array (classes.map value)).pretty

/-- The note for a template that replaces members. -/
def note? (className : String) (template : Template) : Option String :=
  if template.delete.isEmpty then none
  else
    some ("note: " ++ className ++ ": replaces existing " ++ ", ".intercalate template.delete)

/-- The notes of a class, in the order of its templates. -/
def notes (generated : Generated) : List String :=
  generated.templates.filterMap (note? generated.className)

end Generated

/-! ## Types -/

/-- The tree of a type as it is printed: each level is tagged with its kind. -/
def typeValue : DartType → Value
  | .scalar name nullable =>
      .object
        [("kind", .string "scalar"), ("name", .string name.name),
          ("nullable", .boolean nullable)]
  | .list element nullable =>
      .object
        [("kind", .string "list"), ("element", typeValue element),
          ("nullable", .boolean nullable)]
  | .map key value nullable =>
      .object
        [("kind", .string "map"), ("key", typeValue key), ("value", typeValue value),
          ("nullable", .boolean nullable)]
  | .model name nullable =>
      .object
        [("kind", .string "object"), ("name", .string name), ("nullable", .boolean nullable)]

/-- The types of some signatures as JSON. -/
def typesJson (types : List DartType) : String :=
  (Value.array (types.map typeValue)).pretty

end Memberwise.Command
