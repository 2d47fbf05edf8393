import Memberwise.Command.Dump
import Memberwise.Command.Log
import Memberwise.Command.Output
import Memberwise.Document.Config
import Memberwise.Document.Request
import Memberwise.Glob.Expansion
import Memberwise.Signature.Reading

/-!
# Running a command

A run first looks at everything it needs and decides what comes of it.  Only then does
it print or write, so a run that fails before that leaves nothing behind.  If its output
file can not be written, the directories that were made for the file stay.

Main definitions:

- {lit}`loadRequests`: the requests of all inputs, in order.
- {lit}`answerAll`: the templates of all requests, with the messages on the way.
- {lit}`plan`: what comes of an invocation.
- {lit}`Plan.settle`: its outcome on a tree of files.
-/

namespace Memberwise.Command

open Memberwise.Files

/-! ## Failures -/

/-- Why a run fails. -/
inductive Failure where
  | config (error : DocumentError)
  | standardInput (error : FileError)
  | pattern (error : Glob.PatternError)
  | unreadable (error : Glob.Unreadable)
  | noMatch (pattern : String)
  | source (path : String) (error : FileError)
  | document (error : DocumentError)
  | rejected (className : String) (rejection : Rejection)
  | outputDirectory (error : FileError)
  | output (path : String) (error : FileError)
deriving DecidableEq, Repr

/-- The wording of a failure. -/
def Failure.message : Failure → String
  | .config error => error.message
  | .standardInput error => "Failed to read stdin: " ++ error.message
  | .pattern error => error.message
  | .unreadable error => error.message
  | .noMatch text => "glob pattern matched no files: " ++ text
  | .source path error => "Failed to read source file (" ++ path ++ "): " ++ error.message
  | .document error => "Failed to parse request document: " ++ error.message
  | .rejected className rejection =>
      "Failed to generate members for `" ++ className ++ "`: " ++ rejection.message
  | .outputDirectory error => error.message
  | .output path error => "Failed to write " ++ path ++ ": " ++ error.message

/-! ## Loading -/

/-- The configuration of a run: a document, if one is given, with the options that the
arguments switch on. -/
def loadConfig (arguments : GenerateArguments) : Lookup (Except Failure Config) := do
  match arguments.config with
  | none => return .ok { options := arguments.options }
  | some path =>
      match ← Lookup.textFile path with
      | .error error => return .error (.config ⟨path, .unreadable error⟩)
      | .ok source =>
          match readDocument Document.readConfig path source with
          | .error error => return .error (.config error)
          | .ok config =>
              return .ok { config with options := config.options.union arguments.options }

/-- The requests of a document. -/
def requestsOf (origin source : String) : Except Failure (List Request) :=
  match readDocument Document.readRequests origin source with
  | .ok requests => .ok requests
  | .error error => .error (.document error)

/-- The requests of a file. -/
def loadFile (path : String) : Lookup (Except Failure (List Request)) := do
  match ← Lookup.textFile path with
  | .error error => return .error (.source path error)
  | .ok source => return requestsOf path source

/-- The requests of some files, in order. -/
def loadFiles : List String → Lookup (Except Failure (List Request))
  | [] => return .ok []
  | path :: paths => do
      match ← loadFile path with
      | .error failure => return .error failure
      | .ok requests =>
          match ← loadFiles paths with
          | .error failure => return .error failure
          | .ok more => return .ok (requests ++ more)

/-- The requests of the standard input, which is empty once it has been read. -/
def loadInput (isRead : Bool) : Lookup (Except Failure (List Request)) := do
  let bytes ← if isRead then pure (.ok ByteArray.empty) else Lookup.input
  match Lookup.decode bytes with
  | .error error => return .error (.standardInput error)
  | .ok source => return requestsOf "<stdin>" source

/-- The requests of a path or of all files that a pattern stands for. -/
def loadPaths (input : String) : Lookup (Except Failure (List Request)) :=
  if Glob.isPattern input then
    match Glob.expand input with
    | .error error => return .error (.pattern error)
    | .ok paths => do
        match ← paths with
        | .error error => return .error (.unreadable error)
        | .ok [] => return .error (.noMatch input)
        | .ok paths => loadFiles paths
  else loadFiles [input]

/-- The requests of some inputs, in order.  The flag tells whether the standard input
has been read already. -/
def loadInputs : Bool → List String → Lookup (Except Failure (List Request))
  | _, [] => return .ok []
  | isRead, input :: inputs => do
      let isInput := input == "-"
      match ← if isInput then loadInput isRead else loadPaths input with
      | .error failure => return .error failure
      | .ok requests =>
          match ← loadInputs (isRead || isInput) inputs with
          | .error failure => return .error failure
          | .ok more => return .ok (requests ++ more)

/-- The requests of all inputs, in order. -/
def loadRequests (inputs : List String) : Lookup (Except Failure (List Request)) :=
  loadInputs false inputs

/-! ## Answering -/

/-- What came of some requests: the lines of the messages on the way, and either what
was generated or the first failure. -/
structure Answer where
  messages : List String
  result : Except Failure (List Generated)

/-- Answers requests in order, up to the first that is rejected. -/
def answerAll (filter : Filter) (config : Config) (kinds : List TemplateKind) :
    List Request → Answer
  | [] => ⟨[], .ok []⟩
  | request :: requests =>
      let events := Event.shown filter (Event.ofRequest request kinds)
      match generate request config kinds with
      | .error rejection => ⟨events, .error (.rejected request.className rejection)⟩
      | .ok templates =>
          let generated : Generated := ⟨request.className, templates⟩
          let rest := answerAll filter config kinds requests
          ⟨events ++ generated.notes ++ rest.messages, rest.result.map (generated :: ·)⟩

/-- The text that is printed for some classes. -/
def render (format : Format) (classes : List Generated) : String :=
  match format with
  | .text => Generated.allText classes
  | .json => Generated.allJson classes

/-! ## Plans -/

/-- How a run ends. -/
inductive Ending where
  /-- A text is printed. -/
  | print (text : String)
  /-- A text is written to a file. -/
  | write (path text : String)
  /-- Nothing but messages is printed. -/
  | silent
  | fail (failure : Failure)
  | misuse (error : UsageError)

/-- What comes of a run: the lines of the messages, and the end. -/
structure Plan where
  messages : List String
  ending : Ending

/-- What comes of the requests of a run. -/
def planAnswers (filter : Filter) (arguments : GenerateArguments) (config : Config)
    (requests : List Request) : Plan :=
  let kinds := arguments.kinds
  let loaded := Event.shown filter [.loadedRequests requests.length kinds]
  let answer := answerAll filter config kinds requests
  let ending := match answer.result with
    | .error failure => .fail failure
    | .ok classes =>
        let text := render arguments.format classes
        match arguments.out with
        | none => .print text
        | some path => .write path text
  ⟨loaded ++ answer.messages, ending⟩

/-- What comes of the command that generates. -/
def planGenerate (filter : Filter) (arguments : GenerateArguments) : Lookup Plan := do
  match ← loadConfig arguments with
  | .error failure => return ⟨[], .fail failure⟩
  | .ok config =>
      match ← loadRequests arguments.inputs with
      | .error failure => return ⟨[], .fail failure⟩
      | .ok requests => return planAnswers filter arguments config requests

/-- The name and version of the program. -/
def versionText : String := "dart-data-gen 0.1.0"

/-- How the program is used. -/
def helpText : String :=
  "Usage: dart-data-gen [-v] generate -i <INPUT>... [-t <map|apply|to-string|all>]...\n"
    ++ "         [--use-new-keyword] [--add-key-mapper] [--no-implicit-casts]\n"
    ++ "         [--config <FILE>] [--format <text|json>] [-o <FILE>] [--no-op]\n"
    ++ "       dart-data-gen [-v] classify <SIGNATURE>..."

/-- What comes of an invocation.  The filter decides which events are shown. -/
def plan (filter : Option String) (arguments : List String) : Lookup Plan :=
  match Invocation.read arguments with
  | .error error => return ⟨[], .misuse error⟩
  | .ok .help => return ⟨[], .print helpText⟩
  | .ok .version => return ⟨[], .print versionText⟩
  | .ok (.classify _ signatures) =>
      return ⟨[], .print (typesJson (signatures.map Signature.typeOf))⟩
  | .ok (.generate verbose arguments) =>
      if arguments.noOp then return ⟨[arguments.dump verbose], .silent⟩
      else planGenerate (Filter.ofRun verbose filter) arguments

/-! ## Outcomes -/

/-- The outcome of a run on a tree of files. -/
structure Outcome where
  code : Nat
  output : String
  /-- The lines on the standard error. -/
  messages : List String
  tree : Tree

/-- The line of a failure. -/
def Failure.line (failure : Failure) : String :=
  "error: " ++ failure.message

/-- The outcome of a run that fails. -/
def failedOutcome (messages : List String) (failure : Failure) (tree : Tree) : Outcome :=
  ⟨1, "", messages ++ [failure.line], tree⟩

/-- Writes a text to a file, whose directory is made if it is missing. -/
def writeOutput (tree : Tree) (path text : String) : Tree × Except Failure Unit :=
  match tree.makeParents path with
  | (tree, .error error) => (tree, .error (.outputDirectory error))
  | (tree, .ok ()) =>
      match tree.writeFile path text.toUTF8 with
      | .error error => (tree, .error (.output path error))
      | .ok tree => (tree, .ok ())

/-- The outcome of a plan on a tree of files. -/
def Plan.settle (tree : Tree) (plan : Plan) : Outcome :=
  match plan.ending with
  | .print text => ⟨0, text ++ "\n", plan.messages, tree⟩
  | .silent => ⟨0, "", plan.messages, tree⟩
  | .misuse error => ⟨2, "", plan.messages ++ ["error: " ++ error.message], tree⟩
  | .fail failure => failedOutcome plan.messages failure tree
  | .write path text =>
      match writeOutput tree path text with
      | (tree, .ok ()) => ⟨0, "", plan.messages, tree⟩
      | (tree, .error failure) => failedOutcome plan.messages failure tree

/-- Runs the program on a tree of files. -/
def run (surroundings : Surroundings) (filter : Option String) (arguments : List String) :
    Outcome :=
  ((plan filter arguments).run surroundings).settle surroundings.tree

end Memberwise.Command
