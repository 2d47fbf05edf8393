import Memberwise.Proofs.Command.Spreading
import Memberwise.Proofs.Json.Decoding

/-!
# Formats and destinations

What is generated may be printed as code alone or as JSON, and to the standard output or to a
file.  The JSON is decoded to a description of every template, whose code is what is printed
otherwise, and a file receives what would be printed.

Main definitions:

- {lit}`Describes`: whether a datum describes what was generated for a request.
- {lit}`codes`: the code in the descriptions of some classes.
- {lit}`FormatLines`: command lines that differ in the format and the destination.

Main results:

- Theorem {lit}`codes_data`: the code in the descriptions is the code of the templates.
- Theorem {lit}`formats_agree`: formats and destinations agree.
-/

namespace Memberwise.Json.Datum

/-! ## Parts of data -/

/-- The elements of an array. -/
def elements : Datum → List Datum
  | array elements => elements
  | _ => []

/-- The first value in an object that has a given name. -/
def member? (name : String) : Datum → Option Datum
  | object members => members.lookup name
  | _ => none

/-- The characters of a string. -/
def text? : Datum → Option String
  | string value => some value
  | _ => none

/-- The elements of an array are those that it is made of. -/
@[simp]
theorem elements_array (elements : List Datum) : (array elements).elements = elements :=
  rfl

/-- A member of an object is looked up among its members. -/
@[simp]
theorem member?_object (name : String) (members : List (String × Datum)) :
    (object members).member? name = members.lookup name :=
  rfl

/-- The characters of a string are those that it is made of. -/
@[simp]
theorem text?_string (value : String) : (string value).text? = some value :=
  rfl

end Memberwise.Json.Datum

namespace Memberwise.Command

open Memberwise.Files
open Memberwise.Json (Datum decode)

/-! ## Descriptions -/

/-- What the description of a template denotes. -/
def templateDatum (template : Template) : Datum :=
  .object
    [("kind", .string template.kind.name),
      ("members", .array (template.memberNames.map .string)),
      ("delete", .array (template.delete.map .string)),
      ("code", .string template.render)]

/-- What the description of a class denotes. -/
def classDatum (generated : Generated) : Datum :=
  .object
    [("className", .string generated.className),
      ("templates", .array (generated.templates.map templateDatum))]

/-- Whether a datum describes what was generated for a request: the name of the class, and one
template for every distinct kind, in order. -/
def Describes (config : Config) (kinds : List TemplateKind) (request : Request)
    (datum : Datum) : Prop :=
  ∃ templates, generate request config kinds = .ok templates ∧
    templates.map Template.kind = distinct kinds ∧
    datum = classDatum ⟨request.className, templates⟩

/-- The code in the descriptions of some classes, in order. -/
def codes (data : List Datum) : List String :=
  data.flatMap fun datum =>
    ((datum.member? "templates").elim [] Datum.elements).filterMap fun template =>
      (template.member? "code").bind Datum.text?

/-- The code in the descriptions of classes is the code of their templates. -/
theorem codes_data (classes : List Generated) :
    codes (classes.map classDatum) =
      classes.flatMap fun generated => generated.templates.map Template.render := by
  rw [codes, List.flatMap_map]
  refine List.flatMap_congr ?_
  intro generated _
  have htemplates : (classDatum generated).member? "templates" =
      some (.array (generated.templates.map templateDatum)) := by
    simp [classDatum, List.lookup_cons]
  have hcode : ∀ template, ((templateDatum template).member? "code").bind Datum.text? =
      some template.render := by
    intro template
    simp [templateDatum, List.lookup_cons]
  rw [htemplates, Option.elim_some, Datum.elements_array, List.filterMap_map]
  refine (List.filterMap_congr fun template _ => hcode template).trans ?_
  exact congrFun List.filterMap_eq_map generated.templates

/-- Classes are printed as JSON that denotes their descriptions. -/
theorem decode_allJson (classes : List Generated) :
    decode (Generated.allJson classes ++ "\n") = some (.array (classes.map classDatum)) := by
  have hnames : ∀ names : List String, Json.elementData (names.map Json.Value.string) =
      names.map Datum.string := by
    intro names
    rw [Json.elementData_eq_map, List.map_map]
    rfl
  have htemplate : Json.Value.datum ∘ Generated.templateValue = templateDatum := by
    funext template
    simp only [Function.comp_apply, Generated.templateValue, Json.Value.datum, Json.memberData,
      hnames, templateDatum]
  have hclass : Json.Value.datum ∘ Generated.value = classDatum := by
    funext generated
    simp only [Function.comp_apply, Generated.value, Json.Value.datum, Json.memberData,
      Json.elementData_eq_map, List.map_map, htemplate, classDatum]
  rw [Generated.allJson, Json.decode_pretty_array _ (show Json.IsBlanks "\n".toList from rfl),
    hclass]

/-- What is generated for requests is described for each of them. -/
theorem describes_of_classes {config : Config} {kinds : List TemplateKind}
    {requests : List Request} {classes : List Generated}
    (h : requests.mapM (classOf config kinds) = .ok classes) :
    List.Forall₂ (Describes config kinds) requests (classes.map classDatum) := by
  rw [List.forall₂_map_right_iff]
  refine (forall₂_of_mapM_eq_ok h).imp ?_
  intro request generated hclass
  obtain ⟨hname, hgenerate⟩ := classOf_eq_ok_iff.mp hclass
  refine ⟨generated.templates, hgenerate, kinds_of_generate_eq_ok hgenerate, ?_⟩
  rw [← hname]

/-! ## Runs -/

/-- Requests that are all accepted are answered with their classes, whatever is shown on the
way. -/
theorem result_answerAll {filter : Filter} {config : Config} {kinds : List TemplateKind}
    {requests : List Request} {classes : List Generated}
    (h : requests.mapM (classOf config kinds) = .ok classes) :
    (answerAll filter config kinds requests).result = .ok classes := by
  induction requests generalizing classes with
  | nil =>
      cases h
      rfl
  | cons request requests ih =>
      rw [List.mapM_cons] at h
      rcases bind_eq_ok_iff.mp h with ⟨generated, hclass, h⟩
      rcases bind_eq_ok_iff.mp h with ⟨others, hothers, h⟩
      cases h
      obtain ⟨hname, hgenerate⟩ := classOf_eq_ok_iff.mp hclass
      simp only [answerAll, hgenerate, ih hothers, ← hname]
      rfl

/-- Command lines that generate from the same inputs in each format, and print what is generated
or write it to a file. -/
structure FormatLines (verbose : Bool) (arguments : GenerateArguments) (path : String)
    (printing writing : Format → List String) : Prop where
  printing : ∀ format, Invocation.read (printing format) =
    .ok (.generate verbose { arguments with format := format, out := none })
  writing : ∀ format, Invocation.read (writing format) =
    .ok (.generate verbose { arguments with format := format, out := some path })
  noOp : arguments.noOp = false

/-- Requests that are all accepted are answered by printing or writing their classes. -/
theorem planAnswers_of_classes {filter : Filter} {arguments : GenerateArguments} {config : Config}
    {requests : List Request} {classes : List Generated}
    (h : requests.mapM (classOf config arguments.kinds) = .ok classes) :
    planAnswers filter arguments config requests =
      ⟨(planAnswers filter arguments config requests).messages, endingOf arguments classes⟩ := by
  unfold planAnswers
  simp only [result_answerAll h]
  rfl

/-- The formats and the destinations agree.  Where all requests are accepted, what is printed as
JSON is decoded to one description for each of them, and the code in these, with blank lines in
between, is what is printed as text.  A file receives what would be printed, but for the newline
at its end, and the messages are always the same. -/
theorem formats_agree {requests : List Request} {config : Config} {kinds : List TemplateKind}
    {classes : List Generated} (hclasses : requests.mapM (classOf config kinds) = .ok classes) :
    ∃ data, List.Forall₂ (Describes config kinds) requests data ∧
      decode (render .json classes ++ "\n") = some (.array data) ∧
      "\n\n".intercalate (codes data) = render .text classes ∧
      ∀ (surroundings : Surroundings) (filter : Option String) (verbose : Bool)
        (arguments : GenerateArguments) (path : String) (printing writing : Format → List String),
        FormatLines verbose arguments path printing writing → arguments.kinds = kinds →
        (loadConfig arguments).run surroundings = .ok config →
        (loadRequests arguments.inputs).run surroundings = .ok requests →
        ∃ messages, ∀ format,
          run surroundings filter (printing format) =
            ⟨0, render format classes ++ "\n", messages, surroundings.tree⟩ ∧
          ∀ written,
            writeOutput surroundings.tree path (render format classes) = (written, .ok ()) →
            run surroundings filter (writing format) = ⟨0, "", messages, written⟩ ∧
              written.readFile path = .ok (render format classes).toUTF8 := by
  refine ⟨classes.map classDatum, describes_of_classes hclasses, decode_allJson classes, ?_, ?_⟩
  · rw [codes_data, render, Generated.allText]
  · intro surroundings filter verbose arguments path printing writing
      hlines hkinds hconfig hrequests
    subst hkinds
    refine ⟨(planAnswers (Filter.ofRun verbose filter) arguments config requests).messages, ?_⟩
    -- What is asked for in the end has no part in what is loaded and answered.
    have hplan : ∀ format out,
        (planGenerate (Filter.ofRun verbose filter) { arguments with format, out }).run surroundings =
          ⟨(planAnswers (Filter.ofRun verbose filter) arguments config requests).messages,
            endingOf { arguments with format, out } classes⟩ := by
      intro format out
      have hconfig' : (loadConfig { arguments with format, out }).run surroundings = .ok config :=
        hconfig
      rw [run_planGenerate hconfig' hrequests]
      exact @planAnswers_of_classes _ { arguments with format, out } config requests classes
        hclasses
    intro format
    refine ⟨?_, ?_⟩
    · rw [run_of_read (hlines.printing format) hlines.noOp, hplan]
      rfl
    · intro written hwrite
      refine ⟨?_, readFile_of_writeOutput hwrite⟩
      rw [run_of_read (hlines.writing format) hlines.noOp, hplan, endingOf]
      simp only [Plan.settle, hwrite]

/-- A class without fields that has a member of the name of a generated one, in both formats and to
both destinations. -/
theorem formats_agree_single :
    let text := "\x7b\"className\":\"A\",\"existingMembers\":[\"apply\"]\x7d"
    let surroundings : Surroundings := { tree := { root := [("a", .file text.toUTF8)] } }
    let printing : Format → List String
      | .text => ["generate", "-i", "a"]
      | .json => ["generate", "-i", "a", "--format", "json"]
    ∃ datum,
      Describes {} TemplateKind.all { className := "A", existingMembers := ["apply"] } datum ∧
      decode (run surroundings none (printing .json)).output = some (.array [datum]) ∧
      (run surroundings none (printing .text)).output = "\n\n".intercalate (codes [datum]) ++ "\n" ∧
      ∀ format, ∃ content messages written,
        run surroundings none (printing format) =
          ⟨0, content ++ "\n", messages, surroundings.tree⟩ ∧
        run surroundings none (printing format ++ ["-o", "b"]) = ⟨0, "", messages, written⟩ ∧
        written.readFile "b" = .ok content.toUTF8 := by
  intro text surroundings printing
  let arguments : GenerateArguments := { inputs := ["a"] }
  let request : Request := { className := "A", existingMembers := ["apply"] }
  have hlines :
      FormatLines false arguments "b" printing (fun format => printing format ++ ["-o", "b"]) :=
    ⟨fun format => by cases format <;> rfl, fun format => by cases format <;> rfl, rfl⟩
  have hrequests : (loadRequests arguments.inputs).run surroundings = .ok [request] := by
    have htext : requestsOf "a" text = .ok [request] := by decide +kernel
    rw [run_loadRequests]
    simp only [arguments, sources, List.mapM_cons, List.mapM_nil]
    rw [@Source.requests_of_readFile surroundings ⟨false, "a"⟩ text (by decide) (by decide) rfl,
      htext]
    rfl
  have hgenerate := @Memberwise.generate_of_resolve_ok request {} arguments.kinds [] rfl
  rw [if_pos (by decide)] at hgenerate
  let generated : Generated :=
    ⟨"A", (distinct arguments.kinds).map fun kind =>
      (templateOf kind "A" [] {}).replacing ["apply"]⟩
  have hclasses : [request].mapM (classOf {} arguments.kinds) = .ok [generated] := by
    rw [List.mapM_cons, classOf, hgenerate]
    rfl
  obtain ⟨data, hdescribed, hdecode, hcodes, hruns⟩ := formats_agree hclasses
  obtain ⟨messages, hrun⟩ := hruns surroundings none false arguments "b" printing _ hlines rfl rfl
    hrequests
  obtain ⟨datum, _, hdatum, hnone, rfl⟩ := List.forall₂_cons_left_iff.mp hdescribed
  cases hnone
  refine ⟨datum, hdatum, ?_, ?_, ?_⟩
  · rw [(hrun .json).1]
    exact hdecode
  · rw [(hrun .text).1, hcodes]
  · intro format
    have hwrite : ∃ written, writeOutput surroundings.tree "b" (render format [generated]) =
        (written, .ok ()) := ⟨_, rfl⟩
    obtain ⟨written, hwrite⟩ := hwrite
    obtain ⟨hwriting, hfile⟩ := (hrun format).2 written hwrite
    exact ⟨_, messages, written, (hrun format).1, hwriting, hfile⟩

end Memberwise.Command
