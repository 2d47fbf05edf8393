import Memberwise.Proofs.Command.Outcome
import Memberwise.Proofs.Document.Requests
import Memberwise.Proofs.Files.Places

/-!
# Spreading requests over files

Requests can be written into files in many ways: one by one, or some of them in an array, and
the files can be given in one go or one after another.  A run comes to the same in whichever way
they are written, except that a file that is read may be in the way of the output file.

Main definitions:

- {lit}`Spreads`: whether some files hold some requests.
- {lit}`SpreadTwice`: two runs on the same requests, which are spread in different ways.

Main results:

- Theorem {lit}`Spreads.run_loadRequests`: files load to the requests that they hold.
- Theorem {lit}`SpreadTwice.run_planGenerate_eq`: both runs come to the same plan.
- Theorem {lit}`writeOutput_eq_of_sameWay`: an output file is written in both trees, or in neither,
  if its way is the same.
- Theorem {lit}`run_eq_of_spreadTwice`: both runs have the same outcome.
-/

namespace Memberwise.Command

open Memberwise.Files

/-! ## Files that hold requests -/

/-- Whether some inputs are paths of files that hold some requests, in order: in each file one
request, or an array of some. -/
inductive Spreads (tree : Tree) : List String → List Request → Prop where
  | nil : Spreads tree [] []
  | cons {input text : String} {inputs : List String} {requests more : List Request}
      (hinput : input ≠ "-") (hpattern : Glob.isPattern input = false)
      (hfile : tree.readFile input = .ok text.toUTF8)
      (hrequests : Document.HoldsRequests text.toList requests)
      (h : Spreads tree inputs more) : Spreads tree (input :: inputs) (requests ++ more)

/-- A text that holds requests is read to them. -/
theorem requestsOf_of_holds {text : String} {requests : List Request}
    (h : Document.HoldsRequests text.toList requests) (origin : String) :
    requestsOf origin text = .ok requests := by
  rcases Document.readRequests_of_holds h with ⟨rest, hread⟩
  rw [requestsOf, readDocument, hread]

/-- Files load to the requests that they hold, at every turn. -/
theorem Spreads.run_loadInputs {surroundings : Surroundings} {inputs : List String}
    {requests : List Request} (h : Spreads surroundings.tree inputs requests)
    (isInputRead : Bool) :
    (loadInputs isInputRead inputs).run surroundings = .ok requests := by
  induction h generalizing isInputRead with
  | nil => rfl
  | cons hinput hpattern hfile hrequests h ih =>
      rename_i input text inputs requests more
      have hsource := @Source.requests_of_readFile surroundings ⟨isInputRead, input⟩ text hinput
        hpattern hfile
      rw [Command.run_loadInputs, sources, map_flatten_mapM_cons, ← Command.run_loadInputs,
        hsource, requestsOf_of_holds hrequests, ih]
      rfl

/-- Files load to the requests that they hold. -/
theorem Spreads.run_loadRequests {surroundings : Surroundings} {inputs : List String}
    {requests : List Request} (h : Spreads surroundings.tree inputs requests) :
    (loadRequests inputs).run surroundings = .ok requests :=
  h.run_loadInputs false

/-! ## Runs on the same requests -/

/-- Two runs whose arguments differ in nothing but the inputs, over which the same requests are
spread.  If there is a configuration, both find the same one. -/
structure SpreadTwice (first second : Surroundings) (words words' : List String)
    (verbose : Bool) (arguments : GenerateArguments) (inputs' : List String)
    (requests : List Request) : Prop where
  read : Invocation.read words = .ok (.generate verbose arguments)
  read' : Invocation.read words' = .ok (.generate verbose { arguments with inputs := inputs' })
  config : ∀ path, arguments.config = some path →
    first.tree.readFile path = second.tree.readFile path
  spreads : Spreads first.tree arguments.inputs requests
  spreads' : Spreads second.tree inputs' requests

/-- Whether two outcomes are the same to whoever started the runs. -/
structure Outcome.Agrees (first second : Outcome) : Prop where
  code : first.code = second.code
  output : first.output = second.output
  messages : first.messages = second.messages

variable {first second : Surroundings} {words words' : List String} {verbose : Bool}
  {arguments : GenerateArguments} {inputs' : List String} {requests : List Request}

/-- The configuration of a run depends on nothing but the arguments and its document. -/
theorem run_loadConfig_eq
    (hconfig : ∀ path, arguments.config = some path →
      first.tree.readFile path = second.tree.readFile path) :
    (loadConfig { arguments with inputs := inputs' }).run second =
      (loadConfig arguments).run first := by
  unfold loadConfig
  dsimp only
  split
  · rfl
  · rename_i path hpath
    have htext : (Lookup.textFile path).run second = (Lookup.textFile path).run first := by
      change Lookup.decode (second.tree.readFile path) = Lookup.decode (first.tree.readFile path)
      rw [hconfig path hpath]
    rw [Lookup.run_bind, Lookup.run_bind, htext]
    cases (Lookup.textFile path).run first with
    | error error => rfl
    | ok source =>
        dsimp only
        split <;> rfl

/-- Two runs on the same requests come to the same plan. -/
theorem SpreadTwice.run_planGenerate_eq
    (h : SpreadTwice first second words words' verbose arguments inputs' requests)
    (filter : Filter) :
    (planGenerate filter { arguments with inputs := inputs' }).run second =
      (planGenerate filter arguments).run first := by
  unfold planGenerate
  rw [Lookup.run_bind, Lookup.run_bind, run_loadConfig_eq h.config]
  cases (loadConfig arguments).run first with
  | error failure => rfl
  | ok config =>
      dsimp only
      rw [Lookup.run_bind, Lookup.run_bind, h.spreads.run_loadRequests,
        h.spreads'.run_loadRequests]
      rfl

/-- Two runs on the same requests end the plan of the first, each on its own files. -/
theorem SpreadTwice.run_eq_settle {text : Option String} {planned : Plan}
    (h : SpreadTwice first second words words' verbose arguments inputs' requests)
    (hnoOp : arguments.noOp = false)
    (hplanned : (planGenerate (Filter.ofRun verbose text) arguments).run first = planned) :
    run first text words = planned.settle first.tree ∧
      run second text words' = planned.settle second.tree := by
  rw [run_of_read h.read hnoOp, run_of_read h.read' hnoOp, h.run_planGenerate_eq, hplanned]
  exact ⟨rfl, rfl⟩

/-- Arguments that are only to be shown are shown, and nothing else happens. -/
theorem run_of_noOp {surroundings : Surroundings} {text : Option String}
    (hread : Invocation.read words = .ok (.generate verbose arguments))
    (hnoOp : arguments.noOp = true) :
    run surroundings text words = ⟨0, "", [arguments.dump verbose], surroundings.tree⟩ := by
  rw [run, plan, hread]
  simp [hnoOp, Plan.settle]

/-- An output file that has been written is read back as it was written. -/
theorem readFile_of_writeOutput {tree written : Tree} {path text : String}
    (h : writeOutput tree path text = (written, .ok ())) :
    written.readFile path = .ok text.toUTF8 := by
  unfold writeOutput at h
  split at h
  · cases h
  · split at h
    · cases h
    · rename_i hwrite
      cases h
      exact Tree.readFile_of_writeFile hwrite

/-- Where the way of a file is the same in two trees a text is written to it in both, or in neither
for the same reason. -/
theorem writeOutput_eq_of_sameWay {tree tree' : Tree} {path : String}
    (h : tree.SameWay tree' path) (content : String) :
    (writeOutput tree path content).2 = (writeOutput tree' path content).2 := by
  obtain ⟨hresult, hway⟩ := h.makeParents
  unfold writeOutput
  generalize tree.makeParents path = made, tree'.makeParents path = made' at hresult hway ⊢
  obtain ⟨made, result⟩ := made
  obtain ⟨made', result'⟩ := made'
  cases hresult
  cases result with
  | error error => rfl
  | ok done =>
      have hwrite := hway.writeFile content.toUTF8
      dsimp only at hwrite ⊢
      generalize made.writeFile path _ = written, made'.writeFile path _ = written' at hwrite ⊢
      cases hwrite with
      | error error => rfl
      | ok _ => rfl

/-- A text that is written to a file in both of two trees, or in neither for the same reason, ends
a run alike on both, and the file has the same content if it was written. -/
theorem settle_write_agrees {tree tree' : Tree} {messages : List String} {path content : String}
    (h : (writeOutput tree path content).2 = (writeOutput tree' path content).2) :
    let planned : Plan := ⟨messages, .write path content⟩
    (planned.settle tree).Agrees (planned.settle tree') ∧
      ((planned.settle tree).code = 0 → ∃ bytes,
        (planned.settle tree).tree.readFile path = .ok bytes ∧
        (planned.settle tree').tree.readFile path = .ok bytes) := by
  intro planned
  cases hwrite : writeOutput tree path content with
  | mk written result =>
      cases hwrite' : writeOutput tree' path content with
      | mk written' result' =>
          rw [hwrite, hwrite'] at h
          cases h
          simp only [planned, Plan.settle, hwrite, hwrite']
          cases result with
          | error failure =>
              refine ⟨⟨rfl, rfl, rfl⟩, ?_⟩
              intro hcode
              contradiction
          | ok done =>
              refine ⟨⟨rfl, rfl, rfl⟩, ?_⟩
              intro _
              exact ⟨content.toUTF8, readFile_of_writeOutput hwrite,
                readFile_of_writeOutput hwrite'⟩

/-- Two runs on the same requests that write to no file have the same outcome and change no
file. -/
theorem SpreadTwice.run_agrees_of_silent {text : Option String}
    (h : SpreadTwice first second words words' verbose arguments inputs' requests)
    (hquiet : (Filter.ofRun verbose text).IsQuiet) (hnoOp : arguments.noOp = false)
    (hsilent : arguments.out = none ∨ ∃ failure, HasFailure first arguments failure) :
    (run first text words).Agrees (run second text words') ∧
      (run first text words).tree = first.tree ∧ (run second text words').tree = second.tree := by
  rcases failsFirst_or_answers first arguments with
    ⟨notes, failure, hfails⟩ | ⟨config, answered, classes, hanswers⟩
  · obtain ⟨hfirst, hsecond⟩ := h.run_eq_settle hnoOp (hfails.run_planGenerate hquiet)
    rw [hfirst, hsecond]
    exact ⟨⟨rfl, rfl, rfl⟩, rfl, rfl⟩
  · have hout : arguments.out = none := by
      rcases hsilent with hout | ⟨failure, hfailure⟩
      · exact hout
      · exact absurd hfailure hanswers.not_hasFailure
    obtain ⟨hfirst, hsecond⟩ := h.run_eq_settle hnoOp (hanswers.run_planGenerate hquiet)
    rw [hfirst, hsecond, endingOf, hout]
    exact ⟨⟨rfl, rfl, rfl⟩, rfl, rfl⟩

/-- Two runs on the same requests that write to a file in the same way have the same outcome, and
the file has the same content if it was written. -/
theorem SpreadTwice.run_agrees_of_write {text : Option String} {path : String}
    (h : SpreadTwice first second words words' verbose arguments inputs' requests)
    (hquiet : (Filter.ofRun verbose text).IsQuiet) (hnoOp : arguments.noOp = false)
    (hout : arguments.out = some path)
    (halike : ∀ content, (writeOutput first.tree path content).2 =
      (writeOutput second.tree path content).2) :
    (run first text words).Agrees (run second text words') ∧
      ((run first text words).code = 0 → ∃ content,
        (run first text words).tree.readFile path = .ok content ∧
        (run second text words').tree.readFile path = .ok content) := by
  rcases failsFirst_or_answers first arguments with
    ⟨notes, failure, hfails⟩ | ⟨config, answered, classes, hanswers⟩
  · obtain ⟨hfirst, hsecond⟩ := h.run_eq_settle hnoOp (hfails.run_planGenerate hquiet)
    rw [hfirst, hsecond]
    refine ⟨⟨rfl, rfl, rfl⟩, ?_⟩
    intro hcode
    contradiction
  · obtain ⟨hfirst, hsecond⟩ := h.run_eq_settle hnoOp (hanswers.run_planGenerate hquiet)
    rw [hfirst, hsecond, endingOf, hout]
    exact settle_write_agrees (halike _)

/-- Two runs that differ only in how the same requests are spread over files, and that are to
log nothing, have the same outcome.  This holds without any condition if nothing is written to
a file, be it because no file is asked for or because there is a failure before that, and then
no file changes.  Otherwise it holds if the way of the file is the same in both trees, which it is
not if a file that is read in only one of them is in the way there.  More generally it holds if
writing the file fails in both cases or in neither, for the same reason.  If the file is written
its content is the same.  If the arguments are only to be shown, both runs succeed, print nothing
and change no file, and their messages show these arguments, which are the same but for the
inputs. -/
theorem run_eq_of_spreadTwice {text : Option String}
    (h : SpreadTwice first second words words' verbose arguments inputs' requests)
    (hquiet : (Filter.ofRun verbose text).IsQuiet) :
    (arguments.noOp = true →
        (run first text words).code = 0 ∧ (run second text words').code = 0 ∧
        (run first text words).output = "" ∧ (run second text words').output = "" ∧
        (run first text words).messages = [arguments.dump verbose] ∧
        (run second text words').messages =
          [{ arguments with inputs := inputs' }.dump verbose] ∧
        (run first text words).tree = first.tree ∧
        (run second text words').tree = second.tree) ∧
      (arguments.noOp = false →
        (arguments.out = none ∨ ∃ failure, HasFailure first arguments failure) →
        (run first text words).Agrees (run second text words') ∧
          (run first text words).tree = first.tree ∧
          (run second text words').tree = second.tree) ∧
      (arguments.noOp = false → ∀ path, arguments.out = some path →
        first.tree.SameWay second.tree path →
        (run first text words).Agrees (run second text words') ∧
          ((run first text words).code = 0 → ∃ content,
            (run first text words).tree.readFile path = .ok content ∧
            (run second text words').tree.readFile path = .ok content)) ∧
      (arguments.noOp = false → ∀ path, arguments.out = some path →
        (∀ content, (writeOutput first.tree path content).2 =
          (writeOutput second.tree path content).2) →
        (run first text words).Agrees (run second text words') ∧
          ((run first text words).code = 0 → ∃ content,
            (run first text words).tree.readFile path = .ok content ∧
            (run second text words').tree.readFile path = .ok content)) := by
  refine ⟨?_, ?_, ?_, ?_⟩
  · intro hnoOp
    rw [run_of_noOp h.read hnoOp, run_of_noOp h.read' hnoOp]
    exact ⟨rfl, rfl, rfl, rfl, rfl, rfl, rfl, rfl⟩
  · intro hnoOp hsilent
    exact h.run_agrees_of_silent hquiet hnoOp hsilent
  · intro hnoOp path hout hway
    exact h.run_agrees_of_write hquiet hnoOp hout (writeOutput_eq_of_sameWay hway)
  · intro hnoOp path hout halike
    exact h.run_agrees_of_write hquiet hnoOp hout halike

/-- Two requests in an array and in a file each, with the same output file. -/
theorem run_eq_of_spreadTwice_pair :
    let one := "\x7b\"className\":\"A\"\x7d"
    let other := "\x7b\"className\":\"B\"\x7d"
    let both := "[\x7b\"className\":\"A\"\x7d,\x7b\"className\":\"B\"\x7d]"
    let first : Surroundings := { tree := { root := [("both", .file both.toUTF8)] } }
    let second : Surroundings :=
      { tree := { root := [("one", .file one.toUTF8), ("other", .file other.toUTF8)] } }
    let words := ["generate", "-i", "both", "-o", "out"]
    let words' := ["generate", "-i", "one", "-i", "other", "-o", "out"]
    (run first none words).Agrees (run second none words') ∧
      ((run first none words).code = 0 → ∃ content,
        (run first none words).tree.readFile "out" = .ok content ∧
        (run second none words').tree.readFile "out" = .ok content) := by
  intro one other both first second words words'
  have hone : Document.HoldsRequest one.toList { className := "A" } :=
    ⟨by decide, [], by decide +kernel, rfl⟩
  have hother : Document.HoldsRequest other.toList { className := "B" } :=
    ⟨by decide, [], by decide +kernel, rfl⟩
  have hboth : both.toList = [] ++ '[' :: (one.toList ++ ',' :: (other.toList ++ [']'])) := by
    decide
  have harray : Document.HoldsRequests both.toList [{ className := "A" }, { className := "B" }] := by
    rw [hboth]
    exact .array rfl (.cons hone (.last hother []))
  have hfile : first.tree.readFile "both" = .ok both.toUTF8 := rfl
  have hfile₁ : second.tree.readFile "one" = .ok one.toUTF8 := rfl
  have hfile₂ : second.tree.readFile "other" = .ok other.toUTF8 := rfl
  have hspreads' : Spreads second.tree ["one", "other"]
      ([{ className := "A" }] ++ ([{ className := "B" }] ++ [])) :=
    .cons (by decide) (by decide) hfile₁ hone.holdsRequests
      (.cons (by decide) (by decide) hfile₂ hother.holdsRequests .nil)
  have h : SpreadTwice first second words words' false
      { inputs := ["both"], out := some "out" } ["one", "other"] _ :=
    { read := rfl
      read' := rfl
      config := by
        intro path hpath
        contradiction
      spreads := .cons (by decide) (by decide) hfile harray .nil
      spreads' := hspreads' }
  have hway : first.tree.way "out" = [[]] := by decide
  have hsameWay : first.tree.SameWay second.tree "out" :=
    { start_eq := rfl
      kind_eq := by
        intro place hplace
        rw [hway, List.mem_singleton] at hplace
        rw [hplace]
        rfl
      last_iff := by decide }
  have hresult := run_eq_of_spreadTwice h Filter.isQuiet_ofRun
  exact hresult.2.2.1 rfl "out" rfl hsameWay

/-- Where a request is read from makes a difference if the output file is to be made below that
file, which is then no directory, and if the arguments are only to be shown. -/
theorem exists_spreadTwice_run_ne :
    let text := "\x7b\"className\":\"A\"\x7d"
    let first : Surroundings := { tree := { root := [("a", .file text.toUTF8)] } }
    let second : Surroundings := { tree := { root := [("b", .file text.toUTF8)] } }
    (∃ words words' arguments inputs' requests,
      SpreadTwice first second words words' false arguments inputs' requests ∧
        arguments.noOp = false ∧
        (run first none words).code = 1 ∧ (run second none words').code = 0) ∧
      ∃ words words' arguments inputs' requests,
        SpreadTwice first second words words' false arguments inputs' requests ∧
          arguments.noOp = true ∧
          (run first none words).messages ≠ (run second none words').messages := by
  intro text first second
  have hrequest : Document.HoldsRequest text.toList { className := "A" } :=
    ⟨by decide, [], by decide +kernel, rfl⟩
  have hfile : first.tree.readFile "a" = .ok text.toUTF8 := rfl
  have hfile' : second.tree.readFile "b" = .ok text.toUTF8 := rfl
  have hspreads : Spreads first.tree ["a"] ([{ className := "A" }] ++ []) :=
    .cons (by decide) (by decide) hfile hrequest.holdsRequests .nil
  have hspreads' : Spreads second.tree ["b"] ([{ className := "A" }] ++ []) :=
    .cons (by decide) (by decide) hfile' hrequest.holdsRequests .nil
  have hconfig : ∀ path, none = some path →
      first.tree.readFile path = second.tree.readFile path := by
    intro path hpath
    contradiction
  refine ⟨⟨["generate", "-i", "a", "-o", "a/c"], ["generate", "-i", "b", "-o", "a/c"],
      { inputs := ["a"], out := some "a/c" }, ["b"], _,
      ⟨rfl, rfl, hconfig, hspreads, hspreads'⟩, rfl, ?_, ?_⟩,
    ["generate", "-i", "a", "--no-op"], ["generate", "-i", "b", "--no-op"],
      { inputs := ["a"], noOp := true }, ["b"], _,
      ⟨rfl, rfl, hconfig, hspreads, hspreads'⟩, rfl, ?_⟩
  · decide +kernel
  · decide +kernel
  · decide +kernel

end Memberwise.Command
