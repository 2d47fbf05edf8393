import Memberwise.Proofs.Command.Formats
import Memberwise.Proofs.Request.Distinct
import Memberwise.Proofs.Request.Refusal

/-!
# Kinds that are asked for

Every kind of template is generated once, however often it is asked for, in the order in which the
kinds are first asked for.  What is generated for a kind does not depend on the others.  On the
command line a value may stand for all kinds, behind which no further value makes a difference.

Main definitions:

- {lit}`ProducesOnce`: whether every list of kinds is answered in this way.
- {lit}`ProducedFor`: whether a run generates a class in this way.
- {lit}`FurtherValues`: command lines with and without values behind one for all kinds.

Main results:

- Theorems {lit}`producesOnce_templates` and {lit}`producesOnce_generate`: what is generated for a
  class and for a request.
- Theorem {lit}`FurtherValues.run_agrees`: values behind one for all kinds make no difference.
- Theorem {lit}`kinds_producedOnce`: kinds are produced once, in order and independently.
-/

namespace Memberwise

open Memberwise.Text

/-! ## Templates -/

/-- Whether every list of kinds is answered with one template for each of them, in the order in
which they are first asked for, and always the same one. -/
structure ProducesOnce (answer : List TemplateKind → Except Rejection (List Template))
    (template : TemplateKind → Template) : Prop where
  kind_eq : ∀ kind, (template kind).kind = kind
  answers : ∀ kinds, ∃ generated, answer kinds = .ok generated ∧
    IsFirstOccurrences kinds (generated.map Template.kind) ∧
    ∀ one ∈ generated, one = template one.kind

/-- Kinds are produced once if the distinct ones are answered one by one. -/
theorem producesOnce_of_distinct {answer : List TemplateKind → Except Rejection (List Template)}
    {template : TemplateKind → Template} (hkind : ∀ kind, (template kind).kind = kind)
    (h : ∀ kinds, answer kinds = .ok ((distinct kinds).map template)) :
    ProducesOnce answer template := by
  refine ⟨hkind, ?_⟩
  intro kinds
  refine ⟨_, h kinds, ?_, ?_⟩
  · rw [isFirstOccurrences_iff, List.map_map]
    exact List.map_id'' hkind _
  · rw [List.forall_mem_map]
    intro kind _
    rw [hkind]

/-- The templates of a class produce each kind once. -/
theorem producesOnce_templates {className : String} (hname : isIdentifier className = true)
    (fields : List Field) (config : Config) :
    ProducesOnce (templates className fields config) fun kind =>
      templateOf kind className fields config := by
  refine producesOnce_of_distinct (fun kind => kind_templateOf kind className fields config) ?_
  intro kinds
  rw [templates, checkClassName, if_pos hname]
  rfl

/-- The answers to a request produce each kind once. -/
theorem producesOnce_generate {request : Request} {fields : List Field}
    (hname : isIdentifier request.className = true) (hresolve : request.resolve = .ok fields)
    (config : Config) :
    ProducesOnce (generate request config) fun kind =>
      (templateOf kind request.className fields config).replacing request.existingMembers := by
  refine producesOnce_of_distinct
    (fun kind => kind_templateOf kind request.className fields config) ?_
  intro kinds
  rw [generate_of_resolve_ok hresolve, if_pos hname]

/-- Whether a request is answered: its class name is an identifier, and its fields pass all
checks. -/
structure Request.IsValid (request : Request) : Prop where
  className : isIdentifier request.className = true
  fields : ∀ spec ∈ request.fields.specs, spec.IsAccepted

/-- A valid request is answered like its class and its fields, but for what is deleted. -/
theorem Request.IsValid.producesOnce {request : Request} (h : request.IsValid) (config : Config) :
    ∃ fields plain replacing, request.resolve = .ok fields ∧
      ProducesOnce (templates request.className fields config) plain ∧
      ProducesOnce (generate request config) replacing ∧
      ∀ kind, (replacing kind).members = (plain kind).members ∧
        ∀ name, name ∈ (replacing kind).delete ↔
          name ∈ (plain kind).memberNames ∧ name ∈ request.existingMembers := by
  obtain ⟨fields, hresolve⟩ := exists_mapM_eq_ok h.fields
  refine ⟨fields, _, _, hresolve, producesOnce_templates h.className fields config,
    producesOnce_generate h.className hresolve config, ?_⟩
  intro kind
  refine ⟨rfl, ?_⟩
  intro name
  exact Template.mem_delete_replacing _ _ name

/-- A request only depends on the kinds that are first asked for. -/
theorem generate_congr_kinds {kinds kinds' : List TemplateKind}
    (h : distinct kinds = distinct kinds') (request : Request) (config : Config) :
    generate request config kinds = generate request config kinds' := by
  unfold generate templates
  rw [h]

namespace Command

open Memberwise.Files

/-! ## Runs -/

section Runs

variable {arguments : GenerateArguments} {choices : List TemplateChoice}

/-- Requests are answered alike for the same kinds. -/
theorem answerAll_congr {kinds kinds' : List TemplateKind} (h : distinct kinds = distinct kinds')
    (filter : Filter) (config : Config) (requests : List Request) :
    answerAll filter config kinds requests = answerAll filter config kinds' requests := by
  induction requests with
  | nil => rfl
  | cons request requests ih =>
      have hevents : Event.ofRequest request kinds = Event.ofRequest request kinds' := by
        unfold Event.ofRequest
        rw [h]
      rw [answerAll, answerAll, hevents, generate_congr_kinds h, ih]

/-- Whether two plans end alike, with the same messages if a filter shows nothing. -/
structure Plan.Matches (filter : Filter) (planned planned' : Plan) : Prop where
  ending : planned.ending = planned'.ending
  messages : filter.IsQuiet → planned.messages = planned'.messages

/-- Plans that end alike are the same if nothing is shown on the way. -/
theorem Plan.Matches.eq {filter : Filter} {planned planned' : Plan}
    (h : planned.Matches filter planned') (hquiet : filter.IsQuiet) : planned = planned' := by
  cases planned
  cases planned'
  congr
  · exact h.messages hquiet
  · exact h.ending

/-- A plan ends like itself. -/
theorem Plan.Matches.refl (filter : Filter) (planned : Plan) : planned.Matches filter planned :=
  ⟨rfl, fun _ => rfl⟩

/-- What comes of the requests of a run only depends on the kinds that are first asked for, but for
the message that shows all of them. -/
theorem planAnswers_congr
    (h : distinct arguments.kinds = distinct { arguments with templates := choices }.kinds)
    (filter : Filter) (config : Config) (requests : List Request) :
    (planAnswers filter arguments config requests).Matches filter
      (planAnswers filter { arguments with templates := choices } config requests) := by
  have hanswer := answerAll_congr h filter config requests
  unfold planAnswers
  dsimp only
  rw [hanswer]
  refine ⟨rfl, ?_⟩
  intro hquiet
  rw [Event.shown_eq_nil hquiet, Event.shown_eq_nil hquiet]

/-- So does what comes of a run. -/
theorem planGenerate_congr
    (h : distinct arguments.kinds = distinct { arguments with templates := choices }.kinds)
    (filter : Filter) (surroundings : Surroundings) :
    ((planGenerate filter arguments).run surroundings).Matches filter
      ((planGenerate filter { arguments with templates := choices }).run surroundings) := by
  have hload : (loadConfig { arguments with templates := choices }).run surroundings =
      (loadConfig arguments).run surroundings := rfl
  unfold planGenerate
  rw [Lookup.run_bind, Lookup.run_bind, hload]
  cases (loadConfig arguments).run surroundings with
  | error failure => exact .refl _ _
  | ok config =>
      dsimp only
      rw [Lookup.run_bind, Lookup.run_bind]
      cases (loadRequests arguments.inputs).run surroundings with
      | error failure => exact .refl _ _
      | ok requests => exact planAnswers_congr h filter config requests

/-- Whether two outcomes differ in nothing but the messages. -/
structure Outcome.AgreesButMessages (first second : Outcome) : Prop where
  code : first.code = second.code
  output : first.output = second.output
  tree : first.tree = second.tree

/-- Plans that end alike have the same outcome but for the messages. -/
theorem settle_agreesButMessages {planned planned' : Plan}
    (h : planned.ending = planned'.ending) (tree : Tree) :
    (planned.settle tree).AgreesButMessages (planned'.settle tree) := by
  obtain ⟨messages, ending⟩ := planned
  obtain ⟨messages', ending'⟩ := planned'
  obtain rfl : ending = ending' := h
  cases ending with
  | print text => exact ⟨rfl, rfl, rfl⟩
  | silent => exact ⟨rfl, rfl, rfl⟩
  | fail failure => exact ⟨rfl, rfl, rfl⟩
  | misuse error => exact ⟨rfl, rfl, rfl⟩
  | write path text =>
      cases hwrite : writeOutput tree path text with
      | mk written result =>
          simp only [Plan.settle, hwrite]
          cases result <;> exact ⟨rfl, rfl, rfl⟩

/-- Two command lines that ask for the same in the same way, but that one has further values for
templates behind one that stands for all kinds. -/
structure FurtherValues (words words' : List String) (verbose : Bool)
    (arguments : GenerateArguments) (before after : List TemplateChoice) : Prop where
  read : Invocation.read words = .ok (.generate verbose arguments)
  read' : Invocation.read words' =
    .ok (.generate verbose { arguments with templates := before ++ [.all] })
  templates : arguments.templates = before ++ .all :: after

/-- Values behind one that stands for all kinds add no kind. -/
theorem distinct_kinds_of_all {before after : List TemplateChoice}
    (h : arguments.templates = before ++ .all :: after) :
    distinct arguments.kinds =
      distinct { arguments with templates := before ++ [TemplateChoice.all] }.kinds := by
  have hsplit : arguments.kinds =
      { arguments with templates := before ++ [TemplateChoice.all] }.kinds ++
        after.flatMap TemplateChoice.kinds := by
    simp [GenerateArguments.kinds, h]
  rw [hsplit]
  refine distinct_append_of_subset ?_
  intro kind _
  cases kind <;> simp [GenerateArguments.kinds, TemplateChoice.kinds, TemplateKind.all]

/-- Values behind one that stands for all kinds make no difference to a run but in its messages,
and none in these either, unless it shows its arguments or its events. -/
theorem FurtherValues.run_agrees {words words' : List String} {verbose : Bool}
    {before after : List TemplateChoice}
    (h : FurtherValues words words' verbose arguments before after) (surroundings : Surroundings)
    (text : Option String) :
    (run surroundings text words).AgreesButMessages (run surroundings text words') ∧
      (arguments.noOp = false → (Filter.ofRun verbose text).IsQuiet →
        run surroundings text words = run surroundings text words') := by
  cases hnoOp : arguments.noOp with
  | true =>
      rw [run_of_noOp h.read hnoOp, run_of_noOp h.read' hnoOp]
      refine ⟨⟨rfl, rfl, rfl⟩, ?_⟩
      intro hfalse
      contradiction
  | false =>
      have hmatches := planGenerate_congr (distinct_kinds_of_all h.templates)
        (Filter.ofRun verbose text) surroundings
      rw [run_of_read h.read hnoOp, run_of_read h.read' hnoOp]
      refine ⟨settle_agreesButMessages hmatches.ending _, ?_⟩
      intro _ hquiet
      rw [hmatches.eq hquiet]

/-- Whether a class was generated for a request: with the kinds that some values for templates
stand for, each of them once, and with the templates that the request is answered with. -/
structure ProducedFor (config : Config) (choices : List TemplateChoice) (request : Request)
    (generated : Generated) : Prop where
  className : generated.className = request.className
  kinds : IsFirstOccurrences (choices.flatMap TemplateChoice.kinds)
    (generated.templates.map Template.kind)
  templates : generate request config (choices.flatMap TemplateChoice.kinds) =
    .ok generated.templates

/-- A run that is asked to generate prints or writes what is produced for its requests, if these
are valid. -/
theorem exists_run_eq_of_isValid {surroundings : Surroundings} {text : Option String}
    {words : List String} {verbose : Bool} {config : Config} {requests : List Request}
    (hread : Invocation.read words = .ok (.generate verbose arguments))
    (hnoOp : arguments.noOp = false)
    (hconfig : (loadConfig arguments).run surroundings = .ok config)
    (hrequests : (loadRequests arguments.inputs).run surroundings = .ok requests)
    (hvalid : ∀ request ∈ requests, request.IsValid) :
    ∃ messages classes,
      run surroundings text words =
        Plan.settle surroundings.tree ⟨messages, endingOf arguments classes⟩ ∧
      List.Forall₂ (ProducedFor config arguments.templates) requests classes := by
  have hclass : ∀ request ∈ requests, ∃ generated,
      classOf config arguments.kinds request = .ok generated := by
    intro request hrequest
    obtain ⟨_, _, _, _, _, hproduces, _⟩ := (hvalid request hrequest).producesOnce config
    obtain ⟨templates, hgenerate, -⟩ := hproduces.answers arguments.kinds
    exact ⟨⟨request.className, templates⟩, classOf_eq_ok_iff.mpr ⟨rfl, hgenerate⟩⟩
  obtain ⟨classes, hclasses⟩ := exists_mapM_eq_ok hclass
  have hrun : run surroundings text words =
      Plan.settle surroundings.tree
        ⟨(planAnswers (Filter.ofRun verbose text) arguments config requests).messages,
          endingOf arguments classes⟩ := by
    rw [run_of_read hread hnoOp, run_planGenerate hconfig hrequests,
      planAnswers_of_classes hclasses]
  refine ⟨_, classes, hrun, (forall₂_of_mapM_eq_ok hclasses).imp ?_⟩
  intro request generated hclass
  obtain ⟨hname, hgenerate⟩ := classOf_eq_ok_iff.mp hclass
  exact ⟨hname, isFirstOccurrences_iff.mpr (kinds_of_generate_eq_ok hgenerate), hgenerate⟩

/-- Kinds are produced once, in the order in which they are first asked for, and independently of
each other.  For every valid class and every valid request, and for every list of kinds, there is
one template for each distinct kind, which is the same for all lists.  The members in the answer
to a request are those that are generated for its class and its fields, and it deletes those of
them that exist already.  A run produces the kinds that its values for templates stand for in the
same way, where a value for all kinds stands for each of them at its place.  Values behind such a
value make no difference to what is printed or written. -/
theorem kinds_producedOnce (config : Config) :
    (∀ className fields, isIdentifier className = true →
      ∃ template, ProducesOnce (templates className fields config) template ∧
        ∀ kind, (template kind).delete = []) ∧
    (∀ request : Request, request.IsValid →
      ∃ fields plain replacing, request.resolve = .ok fields ∧
        ProducesOnce (templates request.className fields config) plain ∧
        ProducesOnce (generate request config) replacing ∧
        ∀ kind, (replacing kind).members = (plain kind).members ∧
          ∀ name, name ∈ (replacing kind).delete ↔
            name ∈ (plain kind).memberNames ∧ name ∈ request.existingMembers) ∧
    (∀ surroundings text words verbose arguments requests,
      Invocation.read words = .ok (.generate verbose arguments) →
      arguments.noOp = false →
      (loadConfig arguments).run surroundings = .ok config →
      (loadRequests arguments.inputs).run surroundings = .ok requests →
      (∀ request ∈ requests, request.IsValid) →
      ∃ messages classes,
        run surroundings text words =
          Plan.settle surroundings.tree ⟨messages, endingOf arguments classes⟩ ∧
        List.Forall₂ (ProducedFor config arguments.templates) requests classes) ∧
    (∀ surroundings text words words' verbose arguments before after,
      FurtherValues words words' verbose arguments before after →
      (run surroundings text words).AgreesButMessages (run surroundings text words') ∧
        (arguments.noOp = false → (Filter.ofRun verbose text).IsQuiet →
          run surroundings text words = run surroundings text words')) := by
  refine ⟨?_, ?_, ?_, ?_⟩
  · intro className fields hname
    refine ⟨_, producesOnce_templates hname fields config, ?_⟩
    intro kind
    cases kind <;> rfl
  · intro request hvalid
    exact hvalid.producesOnce config
  · intro surroundings text words verbose arguments requests hread hnoOp hconfig hrequests hvalid
    exact exists_run_eq_of_isValid hread hnoOp hconfig hrequests hvalid
  · intro surroundings text words words' verbose arguments before after h
    exact h.run_agrees surroundings text

/-- A class without fields, for which the update is asked for before all kinds and the map members
are asked for behind them.  The last value makes no difference. -/
theorem kinds_producedOnce_repeated :
    let text := "\x7b\"className\":\"A\",\"existingMembers\":[\"apply\"]\x7d"
    let surroundings : Surroundings := { tree := { root := [("a", .file text.toUTF8)] } }
    let words := ["generate", "-i", "a", "-t", "apply", "-t", "all"]
    ∃ generated,
      (run surroundings none (words ++ ["-t", "map"])).output = render .text [generated] ++ "\n" ∧
      generated.className = "A" ∧
      IsFirstOccurrences [.applyMethod, .mapTemplate, .applyMethod, .toString, .mapTemplate]
        (generated.templates.map Template.kind) ∧
      run surroundings none (words ++ ["-t", "map"]) = run surroundings none words := by
  intro text surroundings words
  let arguments : GenerateArguments := { inputs := ["a"], templates := [.apply, .all, .map] }
  let request : Request := { className := "A", existingMembers := ["apply"] }
  obtain ⟨-, -, hruns, hfurther⟩ := kinds_producedOnce {}
  have hread : Invocation.read (words ++ ["-t", "map"]) = .ok (.generate false arguments) := rfl
  have hvalid : request.IsValid := by
    refine ⟨by decide, ?_⟩
    intro spec hspec
    cases hspec
  have hrequests : (loadRequests arguments.inputs).run surroundings = .ok [request] := by
    have hfile : surroundings.tree.readFile "a" = .ok text.toUTF8 := rfl
    have hholds : Document.HoldsRequest text.toList request :=
      ⟨by decide, [], by decide +kernel, rfl⟩
    have hload : Spreads surroundings.tree ["a"] ([request] ++ []) :=
      .cons (by decide) (by decide) hfile hholds.holdsRequests .nil
    exact hload.run_loadRequests
  obtain ⟨messages, classes, hrun, hclasses⟩ := hruns surroundings none _ false arguments [request]
    hread rfl rfl hrequests (by simpa using hvalid)
  obtain ⟨generated, _, hproduced, hnone, rfl⟩ := List.forall₂_cons_left_iff.mp hclasses
  cases hnone
  refine ⟨generated, by rw [hrun]; rfl, hproduced.className, hproduced.kinds, ?_⟩
  have hlines : FurtherValues (words ++ ["-t", "map"]) words false arguments [.apply] [.map] :=
    ⟨hread, rfl, rfl⟩
  exact (hfurther surroundings none _ _ _ _ _ _ hlines).2 rfl Filter.isQuiet_ofRun

end Runs

end Command

end Memberwise
