import Memberwise.Command.Run
import Memberwise.Proofs.Request.Refusal

/-!
# Loading

The inputs of a run are loaded one after another, and so are the files of each input.  They
load to the requests of all of them in order, or fail as the first of them that fails does.

Main definitions:

- {lit}`Source`: an input at its turn.
- {lit}`Supplies`: whether an input supplies a text.
- {lit}`sources`: the inputs of a run, each at its turn.

Main results:

- Theorem {lit}`run_loadFiles`: files are loaded one by one.
- Theorem {lit}`run_loadRequests`: inputs are loaded one by one.
- Theorem {lit}`loadRequests_eq_error_iff`: inputs fail as the first failing one does.
-/

namespace Memberwise.Command

open Memberwise.Files

variable {surroundings : Surroundings}

/-! ## Files -/

/-- What is loaded in two parts is what the first part loads to, followed by what the second
does. -/
theorem run_parts (first second : Lookup (Except Failure (List Request))) :
    Lookup.run surroundings (do
      match ← first with
      | .error failure => return .error failure
      | .ok requests =>
          match ← second with
          | .error failure => return .error failure
          | .ok more => return .ok (requests ++ more)) =
      (do return (← first.run surroundings) ++ (← second.run surroundings)) := by
  rw [Lookup.run_bind]
  cases first.run surroundings with
  | error failure => rfl
  | ok requests =>
      dsimp only
      rw [Lookup.run_bind]
      cases second.run surroundings <;> rfl

/-- The parts that some texts load to, put together. -/
theorem map_flatten_mapM_cons {α : Type} (load : α → Except Failure (List Request)) (a : α)
    (list : List α) :
    ((a :: list).mapM load).map List.flatten =
      (do return (← load a) ++ (← (list.mapM load).map List.flatten)) := by
  rw [List.mapM_cons]
  cases load a with
  | error failure => rfl
  | ok requests => cases list.mapM load <;> rfl

/-- Files are loaded one by one, up to the first that fails, and their requests are kept in
order. -/
theorem run_loadFiles (paths : List String) :
    (loadFiles paths).run surroundings =
      (paths.mapM fun path => (loadFile path).run surroundings).map List.flatten := by
  induction paths with
  | nil => rfl
  | cons path paths ih =>
      rw [map_flatten_mapM_cons, ← ih]
      exact run_parts (loadFile path) (loadFiles paths)

/-- The text of some bytes that are a text. -/
@[simp]
theorem decode_toUTF8 (text : String) : Lookup.decode (.ok text.toUTF8) = .ok text := by
  have htext : String.fromUTF8? text.toUTF8 = some text := dif_pos text.isValidUTF8
  simp only [Lookup.decode, htext]

/-- A file that holds a text loads to the requests of that text. -/
theorem run_loadFile {path text : String}
    (h : surroundings.tree.readFile path = .ok text.toUTF8) :
    (loadFile path).run surroundings = requestsOf path text := by
  have htext : (Lookup.textFile path).run surroundings = .ok text := by
    change Lookup.decode (surroundings.tree.readFile path) = .ok text
    rw [h, decode_toUTF8]
  rw [loadFile, Lookup.run_bind, htext]
  rfl

/-! ## Inputs -/

/-- An input at its turn: whether the standard input, which is empty from then on, has been
read for an input before it. -/
structure Source where
  isInputRead : Bool
  input : String
deriving DecidableEq, Repr

/-- What an input at its turn loads to. -/
def Source.requests (surroundings : Surroundings) (source : Source) :
    Except Failure (List Request) :=
  if source.input == "-" then (loadInput source.isInputRead).run surroundings
  else (loadPaths source.input).run surroundings

/-- An input that is the path of a file with a text loads to the requests of that text, at
every turn. -/
theorem Source.requests_of_readFile {source : Source} {text : String}
    (hinput : source.input ≠ "-") (hpattern : Glob.isPattern source.input = false)
    (hfile : surroundings.tree.readFile source.input = .ok text.toUTF8) :
    source.requests surroundings = requestsOf source.input text := by
  rw [Source.requests, if_neg (by simpa using hinput), loadPaths, if_neg (by simp [hpattern]),
    run_loadFiles]
  simp only [List.mapM_cons, List.mapM_nil, run_loadFile hfile]
  cases requestsOf source.input text <;> simp [bind, Except.bind, pure, Except.pure, Except.map]

/-- Whether an input supplies a text: it is the standard input, or the path of a file. -/
inductive Supplies (surroundings : Surroundings) : String → String → Prop where
  | standardInput {text : String} (h : surroundings.input = text.toUTF8) :
      Supplies surroundings "-" text
  | file {path text : String} (hinput : path ≠ "-") (hpattern : Glob.isPattern path = false)
      (hfile : surroundings.tree.readFile path = .ok text.toUTF8) : Supplies surroundings path text

/-- An input that supplies a text loads to the requests of that text. -/
theorem Supplies.exists_requests_eq {input text : String} (h : Supplies surroundings input text) :
    ∃ origin, Source.requests surroundings ⟨false, input⟩ = requestsOf origin text := by
  cases h with
  | standardInput h =>
      refine ⟨"<stdin>", ?_⟩
      have hbytes : Lookup.input.run surroundings = .ok text.toUTF8 := by
        rw [← h]
        rfl
      have hload : (loadInput false).run surroundings = requestsOf "<stdin>" text := by
        simp only [loadInput, Bool.false_eq_true, if_false, Lookup.run_bind, hbytes, decode_toUTF8,
          Lookup.run_pure]
      rw [Source.requests, if_pos (by decide), hload]
  | file hinput hpattern hfile =>
      exact ⟨input, Source.requests_of_readFile hinput hpattern hfile⟩

/-- Some inputs, each at its turn. -/
def sources : Bool → List String → List Source
  | _, [] => []
  | isInputRead, input :: inputs =>
      ⟨isInputRead, input⟩ :: sources (isInputRead || input == "-") inputs

/-- Inputs are loaded one by one, up to the first that fails, and their requests are kept in
order. -/
theorem run_loadInputs (isInputRead : Bool) (inputs : List String) :
    (loadInputs isInputRead inputs).run surroundings =
      ((sources isInputRead inputs).mapM (Source.requests surroundings)).map List.flatten := by
  induction inputs generalizing isInputRead with
  | nil => rfl
  | cons input inputs ih =>
      rw [sources, map_flatten_mapM_cons, ← ih, loadInputs, Source.requests]
      dsimp only
      split
      · exact run_parts (loadInput isInputRead) _
      · exact run_parts (loadPaths input) _

/-- The inputs of a run are loaded one by one, up to the first that fails. -/
theorem run_loadRequests (inputs : List String) :
    (loadRequests inputs).run surroundings =
      ((sources false inputs).mapM (Source.requests surroundings)).map List.flatten :=
  run_loadInputs false inputs

/-- A single input that supplies a text loads to the requests of that text. -/
theorem Supplies.exists_run_loadRequests {input text : String}
    (h : Supplies surroundings input text) :
    ∃ origin, (loadRequests [input]).run surroundings = requestsOf origin text := by
  obtain ⟨origin, hsource⟩ := h.exists_requests_eq
  refine ⟨origin, ?_⟩
  rw [run_loadRequests, sources, sources, List.mapM_cons, List.mapM_nil, hsource]
  cases requestsOf origin text <;> simp [bind, Except.bind, pure, Except.pure, Except.map]

/-- The inputs of a run fail as the first of them that fails does, whatever the inputs behind
it are. -/
theorem loadRequests_eq_error_iff {inputs : List String} {failure : Failure} :
    (loadRequests inputs).run surroundings = .error failure ↔
      ∃ before source after, sources false inputs = before ++ source :: after ∧
        (∀ earlier ∈ before, ∃ requests, earlier.requests surroundings = .ok requests) ∧
        source.requests surroundings = .error failure := by
  rw [run_loadRequests, ← mapM_eq_error_iff]
  cases (sources false inputs).mapM (Source.requests surroundings) <;>
    simp [Except.map]

/-- The inputs of a run that loads are loaded, every single one. -/
theorem exists_of_loadRequests_eq_ok {inputs : List String} {requests : List Request}
    (h : (loadRequests inputs).run surroundings = .ok requests) :
    ∀ source ∈ sources false inputs, ∃ part, source.requests surroundings = .ok part := by
  rw [run_loadRequests] at h
  cases hparts : (sources false inputs).mapM (Source.requests surroundings) with
  | error failure =>
      rw [hparts] at h
      contradiction
  | ok parts => exact exists_of_mapM_eq_ok hparts

end Memberwise.Command
