import Mathlib.Control.Monad.Basic
import Memberwise.Proofs.Command.Loading

/-!
# Outcomes

A run that generates loads its configuration and its inputs, answers all requests, and only
then prints or writes.  Whatever fails before that ends the run with nothing but messages.

Main definitions:

- {lit}`HasFailure`: what makes a run fail before it prints or writes.
- {lit}`FailsFirst`: where such a run stops, and the notes up to there.

Main results:

- Theorems {lit}`answerAll_of_ok` and {lit}`answerAll_of_error`: what comes of some requests.
- Theorem {lit}`exists_failsFirst_iff`: a run with any failure stops at the first one.
- Theorem {lit}`run_fails_or_answers`: a run that fails before it prints or writes leaves nothing
  behind, and every other run answers all its requests.
-/

namespace Memberwise.Command

open Memberwise.Files

/-! ## Filters that show nothing -/

/-- Whether a filter shows nothing of what happens during a run. -/
def Filter.IsQuiet (filter : Filter) : Prop :=
  ∀ event : Event, filter.shows event.traits = false

/-- A run that is not asked to show anything shows nothing. -/
theorem Filter.isQuiet_ofRun : (Filter.ofRun false none).IsQuiet := by
  intro event
  cases event <;> simp only [Event.traits] <;> decide +kernel

/-- Of no event there is a line. -/
theorem Event.shown_eq_nil {filter : Filter} (hquiet : filter.IsQuiet) (events : List Event) :
    Event.shown filter events = [] := by
  simp [Event.shown, hquiet _]

/-! ## Answers -/

section Answers

variable {filter : Filter} {config : Config} {kinds : List TemplateKind}

/-- What comes of one request. -/
def classOf (config : Config) (kinds : List TemplateKind) (request : Request) :
    Except Failure Generated :=
  match generate request config kinds with
  | .ok templates => .ok ⟨request.className, templates⟩
  | .error rejection => .error (.rejected request.className rejection)

/-- A request comes to a class exactly if it is answered with the templates of that class. -/
theorem classOf_eq_ok_iff {request : Request} {generated : Generated} :
    classOf config kinds request = .ok generated ↔
      generated.className = request.className ∧
        generate request config kinds = .ok generated.templates := by
  obtain ⟨className, templates⟩ := generated
  cases hgenerate : generate request config kinds with
  | error rejection => simp [classOf, hgenerate]
  | ok answer => simp [classOf, hgenerate, eq_comm]

/-- The notes of some classes, in the order of the classes and of their templates. -/
def allNotes (classes : List Generated) : List String :=
  classes.flatMap Generated.notes

/-- Requests that are accepted are answered before those behind them. -/
theorem answerAll_append (hquiet : filter.IsQuiet) {before : List Request}
    {classes : List Generated} (hbefore : before.mapM (classOf config kinds) = .ok classes)
    (requests : List Request) :
    answerAll filter config kinds (before ++ requests) =
      ⟨allNotes classes ++ (answerAll filter config kinds requests).messages,
        (answerAll filter config kinds requests).result.map (classes ++ ·)⟩ := by
  induction before generalizing classes with
  | nil =>
      cases hbefore
      cases hanswer : answerAll filter config kinds requests with
      | mk messages result => cases result <;> simp [allNotes, hanswer, Except.map]
  | cons request before ih =>
      rw [List.mapM_cons, classOf] at hbefore
      cases hgenerate : generate request config kinds with
      | error rejection =>
          rw [hgenerate] at hbefore
          contradiction
      | ok templates =>
          rw [hgenerate] at hbefore
          cases hrest : before.mapM (classOf config kinds) with
          | error failure =>
              rw [hrest] at hbefore
              contradiction
          | ok others =>
              rw [hrest] at hbefore
              cases hbefore
              simp only [List.cons_append, answerAll, hgenerate, Event.shown_eq_nil hquiet,
                ih hrest, List.nil_append]
              cases (answerAll filter config kinds requests).result <;>
                simp [allNotes, Except.map]

/-- Requests that are all accepted are answered with their classes and their notes. -/
theorem answerAll_of_ok (hquiet : filter.IsQuiet) {requests : List Request}
    {classes : List Generated} (h : requests.mapM (classOf config kinds) = .ok classes) :
    answerAll filter config kinds requests = ⟨allNotes classes, .ok classes⟩ := by
  have happend := answerAll_append hquiet h []
  simpa [answerAll, Except.map] using happend

/-- Requests are answered up to the first that is rejected. -/
theorem answerAll_of_error (hquiet : filter.IsQuiet) {before after : List Request}
    {request : Request} {classes : List Generated} {rejection : Rejection}
    (hbefore : before.mapM (classOf config kinds) = .ok classes)
    (hrequest : generate request config kinds = .error rejection) :
    answerAll filter config kinds (before ++ request :: after) =
      ⟨allNotes classes, .error (.rejected request.className rejection)⟩ := by
  rw [answerAll_append hquiet hbefore]
  simp [answerAll, hrequest, Event.shown_eq_nil hquiet, Except.map]

/-- Requests that are not all accepted have a first one that is rejected. -/
theorem exists_first_rejected {requests : List Request} {failure : Failure}
    (h : requests.mapM (classOf config kinds) = .error failure) :
    ∃ before request after classes rejection, requests = before ++ request :: after ∧
      before.mapM (classOf config kinds) = .ok classes ∧
      generate request config kinds = .error rejection := by
  rcases mapM_eq_error_iff.mp h with ⟨before, request, after, hrequests, hbefore, hrequest⟩
  unfold classOf at hrequest
  split at hrequest
  · contradiction
  · rename_i rejection hgenerate
    rcases exists_mapM_eq_ok hbefore with ⟨classes, hclasses⟩
    exact ⟨before, request, after, classes, rejection, hrequests, hclasses, hgenerate⟩

end Answers

/-! ## Runs -/

section Runs

variable {surroundings : Surroundings} {arguments : GenerateArguments}

/-- What makes a run fail before it prints or writes: its configuration, any of its inputs, or,
once these are loaded, any of its classes. -/
inductive HasFailure (surroundings : Surroundings) (arguments : GenerateArguments) :
    Failure → Prop where
  | ofConfig {failure : Failure}
      (h : (loadConfig arguments).run surroundings = .error failure) :
      HasFailure surroundings arguments failure
  | ofSource {source : Source} {failure : Failure}
      (hsource : source ∈ sources false arguments.inputs)
      (h : source.requests surroundings = .error failure) :
      HasFailure surroundings arguments failure
  | ofClass {config : Config} {requests : List Request} {request : Request}
      {rejection : Rejection}
      (hconfig : (loadConfig arguments).run surroundings = .ok config)
      (hrequests : (loadRequests arguments.inputs).run surroundings = .ok requests)
      (hrequest : request ∈ requests)
      (h : generate request config arguments.kinds = .error rejection) :
      HasFailure surroundings arguments (.rejected request.className rejection)

/-- Where a run that fails before it prints or writes stops, after which notes: at its
configuration, at the first input that fails, or at the first class that is rejected.  There
are notes of the classes before that one only. -/
inductive FailsFirst (surroundings : Surroundings) (arguments : GenerateArguments) :
    List String → Failure → Prop where
  | atConfig {failure : Failure}
      (h : (loadConfig arguments).run surroundings = .error failure) :
      FailsFirst surroundings arguments [] failure
  | atSource {config : Config} {before after : List Source} {source : Source}
      {failure : Failure}
      (hconfig : (loadConfig arguments).run surroundings = .ok config)
      (hsources : sources false arguments.inputs = before ++ source :: after)
      (hbefore : ∀ earlier ∈ before, ∃ requests, earlier.requests surroundings = .ok requests)
      (h : source.requests surroundings = .error failure) :
      FailsFirst surroundings arguments [] failure
  | atClass {config : Config} {before after : List Request} {request : Request}
      {classes : List Generated} {rejection : Rejection}
      (hconfig : (loadConfig arguments).run surroundings = .ok config)
      (hrequests : (loadRequests arguments.inputs).run surroundings =
        .ok (before ++ request :: after))
      (hbefore : before.mapM (classOf config arguments.kinds) = .ok classes)
      (h : generate request config arguments.kinds = .error rejection) :
      FailsFirst surroundings arguments (allNotes classes)
        (.rejected request.className rejection)

/-- What a run loads and answers its requests with, if nothing fails before it prints or
writes. -/
structure Answers (surroundings : Surroundings) (arguments : GenerateArguments)
    (config : Config) (requests : List Request) (classes : List Generated) : Prop where
  config_eq : (loadConfig arguments).run surroundings = .ok config
  requests_eq : (loadRequests arguments.inputs).run surroundings = .ok requests
  classes_eq : requests.mapM (classOf config arguments.kinds) = .ok classes

/-- A run stops at a failure or answers all its requests. -/
theorem failsFirst_or_answers (surroundings : Surroundings) (arguments : GenerateArguments) :
    (∃ notes failure, FailsFirst surroundings arguments notes failure) ∨
      ∃ config requests classes, Answers surroundings arguments config requests classes := by
  cases hconfig : (loadConfig arguments).run surroundings with
  | error failure => exact Or.inl ⟨[], failure, .atConfig hconfig⟩
  | ok config =>
      cases hrequests : (loadRequests arguments.inputs).run surroundings with
      | error failure =>
          rcases loadRequests_eq_error_iff.mp hrequests with
            ⟨before, source, after, hsources, hbefore, hsource⟩
          exact Or.inl ⟨[], failure, .atSource hconfig hsources hbefore hsource⟩
      | ok requests =>
          cases hclasses : requests.mapM (classOf config arguments.kinds) with
          | error failure =>
              rcases exists_first_rejected hclasses with
                ⟨before, request, after, classes, rejection, rfl, hbefore, hrequest⟩
              exact Or.inl ⟨_, _, .atClass hconfig hrequests hbefore hrequest⟩
          | ok classes => exact Or.inr ⟨config, requests, classes, hconfig, hrequests, hclasses⟩

/-- Where a run stops there is a failure. -/
theorem FailsFirst.hasFailure {notes : List String} {failure : Failure}
    (h : FailsFirst surroundings arguments notes failure) :
    HasFailure surroundings arguments failure := by
  cases h with
  | atConfig h => exact .ofConfig h
  | atSource hconfig hsources hbefore h => exact .ofSource (by simp [hsources]) h
  | atClass hconfig hrequests hbefore h => exact .ofClass hconfig hrequests (by simp) h

/-- A run that answers all its requests has no failure. -/
theorem Answers.not_hasFailure {config : Config} {requests : List Request}
    {classes : List Generated}
    (hanswers : Answers surroundings arguments config requests classes) {failure : Failure} :
    ¬ HasFailure surroundings arguments failure := by
  intro h
  cases h with
  | ofConfig h =>
      rw [hanswers.config_eq] at h
      contradiction
  | ofSource hsource h =>
      rcases exists_of_loadRequests_eq_ok hanswers.requests_eq _ hsource with ⟨part, hpart⟩
      rw [hpart] at h
      contradiction
  | ofClass hconfig hrequests hrequest h =>
      rw [hanswers.config_eq] at hconfig
      rw [hanswers.requests_eq] at hrequests
      cases hconfig
      cases hrequests
      rcases exists_of_mapM_eq_ok hanswers.classes_eq _ hrequest with ⟨generated, hgenerated⟩
      rw [classOf_eq_ok_iff, h] at hgenerated
      cases hgenerated.2

/-- A run with any failure stops at the first one. -/
theorem exists_failsFirst_iff :
    (∃ notes failure, FailsFirst surroundings arguments notes failure) ↔
      ∃ failure, HasFailure surroundings arguments failure := by
  constructor
  · rintro ⟨notes, failure, h⟩
    exact ⟨failure, h.hasFailure⟩
  · rintro ⟨failure, h⟩
    rcases failsFirst_or_answers surroundings arguments with hfirst | ⟨_, _, _, hanswers⟩
    · exact hfirst
    · exact absurd h hanswers.not_hasFailure

/-! ## Outcomes -/

variable {filter : Filter}

/-- The requests of a run that loads are answered. -/
theorem run_planGenerate {config : Config} {requests : List Request}
    (hconfig : (loadConfig arguments).run surroundings = .ok config)
    (hrequests : (loadRequests arguments.inputs).run surroundings = .ok requests) :
    (planGenerate filter arguments).run surroundings =
      planAnswers filter arguments config requests := by
  rw [planGenerate, Lookup.run_bind, hconfig]
  dsimp only
  rw [Lookup.run_bind, hrequests]
  rfl

/-- A run that stops at a failure has the notes up to there and fails. -/
theorem FailsFirst.run_planGenerate (hquiet : filter.IsQuiet) {notes : List String}
    {failure : Failure} (h : FailsFirst surroundings arguments notes failure) :
    (planGenerate filter arguments).run surroundings = ⟨notes, .fail failure⟩ := by
  cases h with
  | atConfig h =>
      rw [planGenerate, Lookup.run_bind, h]
      rfl
  | atSource hconfig hsources hbefore h =>
      have hrequests := loadRequests_eq_error_iff.mpr ⟨_, _, _, hsources, hbefore, h⟩
      rw [planGenerate, Lookup.run_bind, hconfig]
      dsimp only
      rw [Lookup.run_bind, hrequests]
      rfl
  | atClass hconfig hrequests hbefore h =>
      rw [Command.run_planGenerate hconfig hrequests, planAnswers,
        answerAll_of_error hquiet hbefore h, Event.shown_eq_nil hquiet]
      rfl

/-- How a run that answers all its requests ends. -/
def endingOf (arguments : GenerateArguments) (classes : List Generated) : Ending :=
  match arguments.out with
  | none => .print (render arguments.format classes)
  | some path => .write path (render arguments.format classes)

/-- A run that answers all its requests has all their notes and prints or writes what was
generated. -/
theorem Answers.run_planGenerate (hquiet : filter.IsQuiet) {config : Config}
    {requests : List Request} {classes : List Generated}
    (h : Answers surroundings arguments config requests classes) :
    (planGenerate filter arguments).run surroundings =
      ⟨allNotes classes, endingOf arguments classes⟩ := by
  rw [Command.run_planGenerate h.config_eq h.requests_eq, planAnswers,
    answerAll_of_ok hquiet h.classes_eq, Event.shown_eq_nil hquiet]
  rfl

/-- What comes of a run that is asked to generate. -/
theorem run_of_read {text : Option String} {words : List String} {verbose : Bool}
    (hread : Invocation.read words = .ok (.generate verbose arguments))
    (hnoOp : arguments.noOp = false) :
    run surroundings text words =
      ((planGenerate (Filter.ofRun verbose text) arguments).run surroundings).settle
        surroundings.tree := by
  rw [run, plan, hread]
  simp [hnoOp]

/-- A run that is asked to generate, and to show nothing of it, stops at its first failure or
answers all its requests.  It stops if anything fails, be it the configuration, any input or any
class: then it prints nothing, changes no file, and its messages are the notes of the classes
before the first that is rejected, of which there are none unless everything was loaded, and the
line of the failure.  Otherwise its messages are the notes of all classes, and unless a file can
not be written, it succeeds with what was generated. -/
theorem run_fails_or_answers {text : Option String} {words : List String} {verbose : Bool}
    (hread : Invocation.read words = .ok (.generate verbose arguments))
    (hnoOp : arguments.noOp = false) (hquiet : (Filter.ofRun verbose text).IsQuiet) :
    ((∃ failure, HasFailure surroundings arguments failure) ↔
        ∃ notes failure, FailsFirst surroundings arguments notes failure) ∧
      (∀ notes failure, FailsFirst surroundings arguments notes failure →
        run surroundings text words =
          ⟨1, "", notes ++ [failure.line], surroundings.tree⟩) ∧
      ((¬ ∃ failure, HasFailure surroundings arguments failure) →
        ∃ config requests classes, Answers surroundings arguments config requests classes ∧
          (arguments.out = none →
            run surroundings text words =
              ⟨0, render arguments.format classes ++ "\n", allNotes classes,
                surroundings.tree⟩) ∧
          (∀ path tree, arguments.out = some path →
            writeOutput surroundings.tree path (render arguments.format classes) =
              (tree, .ok ()) →
            run surroundings text words = ⟨0, "", allNotes classes, tree⟩)) := by
  refine ⟨exists_failsFirst_iff.symm, ?_, ?_⟩
  · intro notes failure h
    rw [run_of_read hread hnoOp, h.run_planGenerate hquiet]
    rfl
  · intro hfailure
    rcases failsFirst_or_answers surroundings arguments with
      hfirst | ⟨config, requests, classes, hanswers⟩
    · exact absurd (exists_failsFirst_iff.mp hfirst) hfailure
    · refine ⟨config, requests, classes, hanswers, ?_, ?_⟩
      · intro hout
        rw [run_of_read hread hnoOp, hanswers.run_planGenerate hquiet, endingOf, hout]
        rfl
      · intro path tree hout hwrite
        rw [run_of_read hread hnoOp, hanswers.run_planGenerate hquiet, endingOf, hout]
        simp only [Plan.settle, hwrite]

/-- A run on two classes, the second of which is rejected, that was to write over the file that
describes them. -/
theorem run_fails_or_answers_rejected :
    let text :=
      "[\x7b\"className\":\"A\",\"existingMembers\":[\"apply\"]\x7d,\x7b\"className\":\"1\"\x7d]"
    let surroundings : Surroundings := { tree := { root := [("a", .file text.toUTF8)] } }
    run surroundings none ["generate", "-i", "a", "-o", "a"] =
      ⟨1, "", ["note: A: replaces existing apply",
        "error: Failed to generate members for `1`: invalid class name `1`"],
        surroundings.tree⟩ := by
  intro text surroundings
  let arguments : GenerateArguments := { inputs := ["a"], out := some "a" }
  have hread : Invocation.read ["generate", "-i", "a", "-o", "a"] =
      .ok (.generate false arguments) := by rfl
  let first : Request := { className := "A", existingMembers := ["apply"] }
  let second : Request := { className := "1" }
  have hrequests : requestsOf "a" text = .ok [first, second] := by decide +kernel
  have hload : (loadRequests arguments.inputs).run surroundings = .ok ([first] ++ [second]) := by
    rw [run_loadRequests]
    simp only [arguments, sources, List.mapM_cons, List.mapM_nil]
    rw [@Source.requests_of_readFile surroundings ⟨false, "a"⟩ text (by decide) (by decide) rfl,
      hrequests]
    rfl
  have hgenerate := @generate_of_resolve_ok first {} arguments.kinds [] rfl
  rw [if_pos (by decide)] at hgenerate
  let generated : Generated :=
    ⟨"A", (distinct arguments.kinds).map fun kind =>
      (templateOf kind "A" [] {}).replacing ["apply"]⟩
  have hfirst : [first].mapM (classOf {} arguments.kinds) = .ok [generated] := by
    rw [List.mapM_cons, classOf, hgenerate]
    rfl
  have hrejected := @generate_of_resolve_ok second {} arguments.kinds [] rfl
  rw [if_neg (by decide)] at hrejected
  have hresult := @run_fails_or_answers surroundings arguments none _ false hread rfl
    Filter.isQuiet_ofRun
  exact hresult.2.1 _ _ (.atClass rfl hload hfirst hrejected)

end Runs

end Memberwise.Command
