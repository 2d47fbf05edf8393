import Memberwise.Config
import Memberwise.Template.Basic

/-!
# Command line arguments

The arguments of the program: what to generate and from which documents, or which
signatures to classify.

Main definitions:

- {lit}`Invocation`: what the program is asked to do.
- {lit}`Invocation.read`: the reading of the arguments.
-/

namespace Memberwise.Command

/-! ## Invocations -/

/-- A choice of templates. -/
inductive TemplateChoice where
  | map
  | apply
  | toString
  | all
deriving DecidableEq, Repr

/-- The choice with a name. -/
def TemplateChoice.ofName? : String → Option TemplateChoice
  | "map" => some map
  | "apply" => some apply
  | "to-string" => some toString
  | "all" => some all
  | _ => none

/-- The kinds that are chosen. -/
def TemplateChoice.kinds : TemplateChoice → List TemplateKind
  | map => [.mapTemplate]
  | apply => [.applyMethod]
  | toString => [.toString]
  | all => TemplateKind.all

/-- The form of the output. -/
inductive Format where
  | text
  | json
deriving DecidableEq, Repr

/-- The form with a name. -/
def Format.ofName? : String → Option Format
  | "text" => some text
  | "json" => some json
  | _ => none

/-- What to generate, and from what. -/
structure GenerateArguments where
  /-- Paths, patterns, or a hyphen for the standard input. -/
  inputs : List String
  templates : List TemplateChoice := [.all]
  /-- Options that are switched on over the configuration. -/
  options : Options := {}
  config : Option String := none
  format : Format := .text
  out : Option String := none
  /-- Only show the arguments. -/
  noOp : Bool := false
deriving DecidableEq, Repr

/-- The kinds of template that are asked for, with repetitions. -/
def GenerateArguments.kinds (arguments : GenerateArguments) : List TemplateKind :=
  arguments.templates.flatMap TemplateChoice.kinds

/-- What the program is asked to do. -/
inductive Invocation where
  | help
  | version
  | generate (verbose : Bool) (arguments : GenerateArguments)
  | classify (verbose : Bool) (signatures : List String)
deriving DecidableEq, Repr

/-! ## Errors -/

/-- Why arguments are refused. -/
inductive UsageError where
  | missingCommand
  | unexpected (argument : String)
  | repeated (option : String)
  | missingValue (option : String)
  | badValue (option value : String)
  | missingArgument (name : String)
deriving DecidableEq, Repr

/-- The wording of a refusal. -/
def UsageError.message : UsageError → String
  | missingCommand => "a command is required: generate or classify"
  | unexpected argument => "unexpected argument '" ++ argument ++ "'"
  | repeated option => "the argument '" ++ option ++ "' cannot be used multiple times"
  | missingValue option => "a value is required for '" ++ option ++ "'"
  | badValue option value => "invalid value '" ++ value ++ "' for '" ++ option ++ "'"
  | missingArgument name => "the argument '" ++ name ++ "' is required"

/-- Why the reading of arguments stops early. -/
inductive Stop where
  | help
  | version
  | refused (error : UsageError)
deriving DecidableEq, Repr

/-- Stops with a refusal. -/
def refuse {α : Type} (error : UsageError) : Except Stop α :=
  .error (.refused error)

/-! ## Words -/

/-- An argument by its form. -/
inductive Word where
  | plain (text : String)
  /-- Two hyphens, behind which every argument is plain. -/
  | separator
  | long (name : String) (value : Option String)
  | short (letters : List Char)
deriving DecidableEq, Repr

/-- The form of an argument.  A hyphen alone is plain. -/
def Word.ofText (text : String) : Word :=
  match text.toList with
  | ['-', '-'] => .separator
  | '-' :: '-' :: rest =>
      let name := String.ofList (rest.takeWhile (· != '='))
      match rest.dropWhile (· != '=') with
      | [] => .long name none
      | _ :: value => .long name (some (String.ofList value))
  | '-' :: c :: rest => .short (c :: rest)
  | _ => .plain text

/-! ## Options -/

/-- The switches of the command that generates. -/
inductive Switch where
  | verbose
  | useNewKeyword
  | addKeyMapper
  | noImplicitCasts
  | noOp
deriving DecidableEq, Repr

/-- The options with values. -/
inductive Setting where
  | input
  | template
  | config
  | format
  | out
deriving DecidableEq, Repr

/-- The name of a switch. -/
def Switch.name : Switch → String
  | verbose => "verbose"
  | useNewKeyword => "use-new-keyword"
  | addKeyMapper => "add-key-mapper"
  | noImplicitCasts => "no-implicit-casts"
  | noOp => "no-op"

/-- The name of an option with values. -/
def Setting.name : Setting → String
  | input => "input"
  | template => "template"
  | config => "config"
  | format => "format"
  | out => "out"

/-- All switches. -/
def Switch.all : List Switch :=
  [verbose, useNewKeyword, addKeyMapper, noImplicitCasts, noOp]

/-- All options with values. -/
def Setting.all : List Setting :=
  [input, template, config, format, out]

/-- The option with values that a letter stands for. -/
def Setting.ofLetter? : Char → Option Setting
  | 'i' => some input
  | 't' => some template
  | 'o' => some out
  | _ => none

/-- The arguments that have been read so far. -/
structure Draft where
  switches : List Switch := []
  inputs : List String := []
  templates : List TemplateChoice := []
  config : Option String := none
  format : Option Format := none
  out : Option String := none
deriving DecidableEq, Repr

namespace Draft

/-- Turns a switch on, unless it is on already. -/
def raise (draft : Draft) (switch : Switch) : Except Stop Draft :=
  if switch ∈ draft.switches then refuse (.repeated switch.name)
  else .ok { draft with switches := switch :: draft.switches }

/-- The arguments after a single option got its value, unless it had one before. -/
def setOnce {α : Type} (setting : Setting) (previous : Option α) (draft : Draft) :
    Except Stop Draft :=
  if previous.isSome then refuse (.repeated setting.name) else .ok draft

/-- Gives an option a value.  Inputs and templates add up; the others are given once. -/
def set (draft : Draft) (setting : Setting) (value : String) : Except Stop Draft :=
  match setting with
  | .input => .ok { draft with inputs := draft.inputs ++ [value] }
  | .template =>
      match TemplateChoice.ofName? value with
      | some choice => .ok { draft with templates := draft.templates ++ [choice] }
      | none => refuse (.badValue setting.name value)
  | .format =>
      match Format.ofName? value with
      | some format => setOnce setting draft.format { draft with format := some format }
      | none => refuse (.badValue setting.name value)
  | .config =>
      if value = "" then refuse (.badValue setting.name value)
      else setOnce setting draft.config { draft with config := some value }
  | .out =>
      if value = "" then refuse (.badValue setting.name value)
      else setOnce setting draft.out { draft with out := some value }

/-- The arguments that have been read, if none is missing. -/
def finish (draft : Draft) : Except Stop GenerateArguments :=
  if draft.inputs.isEmpty then refuse (.missingArgument "input")
  else
    let given : GenerateArguments := { inputs := draft.inputs }
    .ok
      { given with
        templates := if draft.templates.isEmpty then given.templates else draft.templates
        options :=
          { useNewKeyword := .useNewKeyword ∈ draft.switches
            addKeyMapper := .addKeyMapper ∈ draft.switches
            noImplicitCasts := .noImplicitCasts ∈ draft.switches }
        config := draft.config
        format := draft.format.getD given.format
        out := draft.out
        noOp := .noOp ∈ draft.switches }

end Draft

/-- An option whose values may follow, and whether one has followed already. -/
structure Pending where
  setting : Setting
  hasValue : Bool
deriving DecidableEq, Repr

/-- Refuses an option that has not got any value. -/
def closePending : Option Pending → Except Stop Unit
  | some ⟨setting, false⟩ => refuse (.missingValue setting.name)
  | _ => .ok ()

/-- Reads the letters of a short argument; an option takes what follows its letter as
its value. -/
def readLetters (draft : Draft) : List Char → Except Stop (Draft × Option Pending)
  | [] => .ok (draft, none)
  | c :: rest =>
      if c = 'h' then .error .help
      else if c = 'v' then do readLetters (← draft.raise .verbose) rest
      else
        match Setting.ofLetter? c with
        | none => refuse (.unexpected (String.ofList ['-', c]))
        | some setting =>
            match rest with
            | [] => .ok (draft, some ⟨setting, false⟩)
            | '=' :: value => do return (← draft.set setting (String.ofList value), none)
            | value => do return (← draft.set setting (String.ofList value), none)

/-- Reads a long argument. -/
def readLong (draft : Draft) (name : String) (value : Option String) :
    Except Stop (Draft × Option Pending) :=
  match Setting.all.find? (·.name == name), value with
  | some setting, none => .ok (draft, some ⟨setting, false⟩)
  | some setting, some value => do return (← draft.set setting value, none)
  | none, some _ => refuse (.unexpected ("--" ++ name))
  | none, none =>
      if name = "help" then .error .help
      else
        match Switch.all.find? (·.name == name) with
        | some switch => do return (← draft.raise switch, none)
        | none => refuse (.unexpected ("--" ++ name))

/-- Reads the arguments of the command that generates. -/
def readGenerate : Draft → Option Pending → List String → Except Stop Draft
  | draft, pending, [] => do
      closePending pending
      return draft
  | draft, pending, argument :: rest =>
      match Word.ofText argument with
      | .plain text =>
          match pending with
          | none => refuse (.unexpected text)
          | some ⟨setting, _⟩ => do
              let draft ← draft.set setting text
              let pending := if setting = .input then some ⟨setting, true⟩ else none
              readGenerate draft pending rest
      | .separator => do
          closePending pending
          match rest with
          | [] => return draft
          | extra :: _ => refuse (.unexpected extra)
      | .long name value => do
          closePending pending
          let (draft, pending) ← readLong draft name value
          readGenerate draft pending rest
      | .short letters => do
          closePending pending
          let (draft, pending) ← readLetters draft letters
          readGenerate draft pending rest

/-! ## Classification -/

/-- Reads the letters of a short argument that only knows one switch. -/
def readVerboseLetters : Bool → List Char → Except Stop Bool
  | verbose, [] => .ok verbose
  | verbose, c :: rest =>
      if c = 'h' then .error .help
      else if c ≠ 'v' then refuse (.unexpected (String.ofList ['-', c]))
      else if verbose then refuse (.repeated Switch.verbose.name)
      else readVerboseLetters true rest

/-- Reads a long argument that only knows one switch. -/
def readVerboseLong (verbose : Bool) (name : String) (value : Option String) :
    Except Stop Bool :=
  if name = "help" ∧ value = none then .error .help
  else if name ≠ Switch.verbose.name ∨ value ≠ none then refuse (.unexpected ("--" ++ name))
  else if verbose then refuse (.repeated name)
  else .ok true

/-- Reads the arguments of the command that classifies: the switch and the
signatures. -/
def readClassify : Bool → List String → Except Stop (Bool × List String)
  | verbose, [] => .ok (verbose, [])
  | verbose, argument :: rest =>
      match Word.ofText argument with
      | .plain text => do
          let (verbose, signatures) ← readClassify verbose rest
          return (verbose, text :: signatures)
      | .separator => .ok (verbose, rest)
      | .long name value => do readClassify (← readVerboseLong verbose name value) rest
      | .short letters => do readClassify (← readVerboseLetters verbose letters) rest

/-! ## The program -/

/-- Reads the letters of a short argument in front of the command. -/
def readLeadingLetters : Bool → List Char → Except Stop Bool
  | verbose, [] => .ok verbose
  | verbose, c :: rest =>
      if c = 'V' then .error .version
      else if c = 'h' then .error .help
      else if c ≠ 'v' then refuse (.unexpected (String.ofList ['-', c]))
      else if verbose then refuse (.repeated Switch.verbose.name)
      else readLeadingLetters true rest

/-- The names of the commands. -/
def commandNames : List String := ["generate", "classify", "help"]

/-- Reads what help is asked for: all of it, or that for one command. -/
def readHelp : List String → Except Stop Invocation
  | [] => .error .help
  | name :: rest =>
      if name ∈ commandNames then
        match rest with
        | [] => .error .help
        | extra :: _ => refuse (.unexpected extra)
      else refuse (.unexpected name)

/-- Reads the name of the command and its arguments. -/
def readCommand (verbose : Bool) (name : String) (arguments : List String) :
    Except Stop Invocation :=
  if name = "generate" then do
    let draft ← readGenerate {} none arguments
    return .generate (verbose || .verbose ∈ draft.switches) (← draft.finish)
  else if name = "classify" then do
    let (inner, signatures) ← readClassify false arguments
    if signatures.isEmpty then refuse (.missingArgument "signatures")
    else return .classify (verbose || inner) signatures
  else if name = "help" then readHelp arguments
  else refuse (.unexpected name)

/-- Reads the arguments from in front of the command on. -/
def readArguments : Bool → List String → Except Stop Invocation
  | _, [] => refuse .missingCommand
  | verbose, argument :: rest =>
      match Word.ofText argument with
      | .plain name => readCommand verbose name rest
      | .separator =>
          match rest with
          | [] => refuse .missingCommand
          | extra :: _ => refuse (.unexpected extra)
      | .long name value =>
          if name = "version" ∧ value = none then .error .version
          else do readArguments (← readVerboseLong verbose name value) rest
      | .short letters => do readArguments (← readLeadingLetters verbose letters) rest

/-- What the arguments ask for. -/
def Invocation.read (arguments : List String) : Except UsageError Invocation :=
  match readArguments false arguments with
  | .ok command => .ok command
  | .error .help => .ok .help
  | .error .version => .ok .version
  | .error (.refused error) => .error error

end Memberwise.Command
