import Memberwise.Command.Arguments
import Memberwise.Text.Quoted

/-!
# Showing arguments

The arguments of the command that generates, as they are shown when nothing is to be
done: one part on a line, indented by four spaces for each level.

Main definitions:

- {lit}`Dump`: a value that is shown.
- {lit}`Dump.text`: its text.
- {lit}`GenerateArguments.dump`: the arguments.
-/

namespace Memberwise.Command

/-! ## Shown values -/

/-- A value that is shown. -/
inductive Dump where
  | word (text : String)
  | list (elements : List Dump)
  /-- A named value that holds one other. -/
  | wrapped (name : String) (inner : Dump)
  | record (name : String) (parts : List (String × Dump))

/-- The start of a line at a depth. -/
def dumpLine (depth : Nat) : String :=
  "\n" ++ String.ofList (List.replicate (4 * depth) ' ')

mutual

/-- The text of a value at a depth. -/
def Dump.text (depth : Nat) : Dump → String
  | .word text => text
  | .list [] => "[]"
  | .list (element :: elements) =>
      "[" ++ listText (depth + 1) (element :: elements) ++ dumpLine depth ++ "]"
  | .wrapped name inner =>
      name ++ "(" ++ dumpLine (depth + 1) ++ inner.text (depth + 1) ++ "," ++ dumpLine depth
        ++ ")"
  | .record name parts =>
      name ++ " \x7b" ++ partsText (depth + 1) parts ++ dumpLine depth ++ "\x7d"

/-- The lines of the elements of a list. -/
def listText (depth : Nat) : List Dump → String
  | [] => ""
  | element :: elements =>
      dumpLine depth ++ element.text depth ++ "," ++ listText depth elements

/-- The lines of the parts of a record. -/
def partsText (depth : Nat) : List (String × Dump) → String
  | [] => ""
  | part :: parts =>
      dumpLine depth ++ part.1 ++ ": " ++ part.2.text depth ++ "," ++ partsText depth parts

end

/-! ## Arguments -/

/-- A truth value. -/
def dumpBool (value : Bool) : Dump :=
  .word (if value then "true" else "false")

/-- A path that may be missing. -/
def dumpPath (path : Option String) : Dump :=
  match path with
  | none => .word "None"
  | some path => .wrapped "Some" (.word (Text.quoted path))

/-- The shown name of a choice of templates. -/
def TemplateChoice.shown : TemplateChoice → String
  | map => "Map"
  | apply => "Apply"
  | toString => "ToString"
  | all => "All"

/-- The shown name of a form of output. -/
def Format.shown : Format → String
  | text => "Text"
  | json => "Json"

/-- The options that are switched on. -/
def dumpOptions (options : Options) : Dump :=
  .record "OptionFlags"
    [("use_new_keyword", dumpBool options.useNewKeyword),
      ("add_key_mapper", dumpBool options.addKeyMapper),
      ("no_implicit_casts", dumpBool options.noImplicitCasts)]

/-- The arguments of the command that generates. -/
def GenerateArguments.dump (verbose : Bool) (arguments : GenerateArguments) : String :=
  let inputs := arguments.inputs.map fun input => Dump.word (Text.quoted input)
  let templates := arguments.templates.map fun choice => Dump.word choice.shown
  let generate : Dump := .record "GenerateOut"
    [("input_settings", .record "InputSettings" [("input", .list inputs)]),
      ("templates", .list templates),
      ("options", dumpOptions arguments.options),
      ("config", dumpPath arguments.config),
      ("format", .word arguments.format.shown),
      ("out", dumpPath arguments.out),
      ("no_op", dumpBool arguments.noOp)]
  let program : Dump := .record "CommandLineInterface"
    [("verbose", dumpBool verbose), ("cmd", .wrapped "Generate" generate)]
  program.text 0

end Memberwise.Command
