import Mathlib.Data.List.Basic
import Memberwise.Request

/-!
# The steps behind a template

Every member of a template is laid out by steps, and what it consists of are the texts that
these steps write.

Main definitions:

- {lit}`Layout.Step.text`: the text that a step writes.
- {lit}`memberSteps`: the steps of the members of a template.

Main results:

- Theorem {lit}`Layout.map_text_lines`: the texts of the lines are those of the steps.
- Theorem {lit}`exists_toList_render`: a printed line is its text behind some blanks.
- Theorems {lit}`map_lines_templateOf` and {lit}`exists_steps_of_mem_members`: every member is
  laid out by its steps.
- Theorem {lit}`forall_lines_templateOf_iff`: what holds of all lines of a template.
- Theorems {lit}`map_text_toMapBody`, {lit}`map_text_fromMapBody`,
  {lit}`map_text_applyBody`: the texts around the fragments of the fields.
- Theorem {lit}`forall_mem_descriptionPieces`: what holds of all pieces of a description.
-/

namespace Memberwise

open Memberwise.Dart Memberwise.Layout Memberwise.Template

/-! ## Texts of steps -/

namespace Layout

/-- The text that a step writes. -/
def Step.text : Step → String
  | line text => text
  | blank => ""
  | opening text => text
  | closing text => text
  | reopening text => text

@[simp]
theorem Step.text_line (text : String) : (Step.line text).text = text :=
  rfl

@[simp]
theorem Step.text_blank : Step.blank.text = "" :=
  rfl

@[simp]
theorem Step.text_opening (text : String) : (Step.opening text).text = text :=
  rfl

@[simp]
theorem Step.text_closing (text : String) : (Step.closing text).text = text :=
  rfl

@[simp]
theorem Step.text_reopening (text : String) : (Step.reopening text).text = text :=
  rfl

/-- A step writes its text at any depth. -/
@[simp]
theorem text_write (depth : Nat) (step : Step) : (step.write depth).text = step.text := by
  cases step <;> rfl

/-- The texts of the lines are those of the steps that write them. -/
theorem map_text_lines (depth : Nat) (steps : List Step) :
    (lines depth steps).map Line.text = steps.map Step.text := by
  induction steps generalizing depth with
  | nil => rfl
  | cons step steps ih => rw [lines, List.map_cons, List.map_cons, text_write, ih]

/-- Lines that are written one by one have the given texts. -/
theorem map_text_line (texts : List String) : (texts.map Step.line).map Step.text = texts := by
  rw [List.map_map]
  exact List.map_id texts

/-! ## Printed lines -/

/-- A printed line is its text behind some blanks. -/
theorem exists_toList_render (line : Line) :
    ∃ indentation, line.render.toList = List.replicate indentation ' ' ++ line.text.toList := by
  unfold Line.render
  split
  · rename_i hempty
    refine ⟨0, ?_⟩
    rw [String.isEmpty_iff.mp hempty]
    rfl
  · refine ⟨2 * line.depth, ?_⟩
    rw [String.toList_append, String.toList_ofList]

/-- Line feeds stand between the printed lines. -/
theorem toList_render (lines : List Line) :
    (render lines).toList = ['\n'].intercalate (lines.map fun line => line.render.toList) := by
  rw [render, String.toList_intercalate, List.map_map]
  rfl

end Layout

/-! ## Members -/

/-- The steps of the members of a template. -/
def memberSteps (kind : TemplateKind) (className : String) (fields : List Field)
    (config : Config) : List (List Step) :=
  match kind with
  | .mapTemplate => [toMapSteps fields config, fromMapSteps className fields config]
  | .applyMethod => [applySteps className fields config]
  | .toString => [toStringSteps className fields config]

/-- Members are laid out by their steps. -/
theorem map_lines_templateOf (kind : TemplateKind) (className : String) (fields : List Field)
    (config : Config) :
    (templateOf kind className fields config).members.map Member.lines =
      (memberSteps kind className fields config).map (Layout.lines 0) := by
  cases kind <;> rfl

section Members

variable {kind : TemplateKind} {className : String} {fields : List Field} {config : Config}

/-- A text is that of a line of a template exactly if a step of the template writes it. -/
theorem forall_lines_templateOf_iff {P : String → Prop} :
    (∀ member ∈ (templateOf kind className fields config).members,
      ∀ line ∈ member.lines, P line.text) ↔
    ∀ steps ∈ memberSteps kind className fields config,
      ∀ text ∈ steps.map Step.text, P text := by
  have hlines := map_lines_templateOf kind className fields config
  calc (∀ member ∈ (templateOf kind className fields config).members,
      ∀ line ∈ member.lines, P line.text)
      ↔ ∀ lines ∈ (templateOf kind className fields config).members.map Member.lines,
          ∀ text ∈ lines.map Line.text, P text := by
        simp only [List.forall_mem_map]
    _ ↔ ∀ steps ∈ memberSteps kind className fields config,
          ∀ text ∈ steps.map Step.text, P text := by
        rw [hlines, List.forall_mem_map]
        simp only [map_text_lines]

/-- Every member of a template is laid out by steps. -/
theorem exists_steps_of_mem_members {member : Member}
    (h : member ∈ (templateOf kind className fields config).members) :
    ∃ steps ∈ memberSteps kind className fields config, member.lines = Layout.lines 0 steps := by
  have hlines := List.mem_map_of_mem (f := Member.lines) h
  rw [map_lines_templateOf] at hlines
  rcases List.mem_map.mp hlines with ⟨steps, hsteps, hlayout⟩
  exact ⟨steps, hsteps, hlayout.symm⟩

/-- No member is laid out by no steps. -/
theorem ne_nil_of_mem_memberSteps {steps : List Step}
    (h : steps ∈ memberSteps kind className fields config) : steps ≠ [] := by
  cases kind with
  | mapTemplate =>
      rcases List.mem_pair.mp h with rfl | rfl
      · simp [toMapSteps]
      · simp [fromMapSteps]
  | applyMethod =>
      rw [List.mem_singleton.mp h]
      simp [applySteps]
  | toString =>
      rw [List.mem_singleton.mp h]
      simp [toStringSteps]

/-- The texts of the body of a conversion to a map. -/
theorem map_text_toMapBody {entries : List String} :
    (toMapBody entries).map Step.text =
      if entries = [] then ["return \x7b\x7d;"]
      else "return \x7b" :: (entries ++ ["\x7d;"]) := by
  cases entries with
  | nil => rfl
  | cons entry entries =>
      rw [if_neg (by simp), toMapBody, List.map_append, List.map_cons, map_text_line]
      · rfl
      · simp

/-- The entry of a field is a line of the conversion to a map. -/
theorem entryText_mem_toMapSteps {field : Field} (h : field ∈ fields) :
    (Entry.ofField config field).text ∈ (toMapSteps fields config).map Step.text := by
  have hentry : (Entry.ofField config field).text ∈
      fields.map fun field => (Entry.ofField config field).text :=
    List.mem_map_of_mem h
  have hbody : (Entry.ofField config field).text ∈
      (toMapBody (fields.map fun field => (Entry.ofField config field).text)).map Step.text := by
    rw [map_text_toMapBody, if_neg (List.ne_nil_of_mem hentry)]
    exact List.mem_cons_of_mem _ (List.mem_append_left _ hentry)
  rw [toMapSteps, List.map_append, List.map_append]
  exact List.mem_append_left _ (List.mem_append_right _ hbody)

/-- The texts of the body of a conversion from a map. -/
theorem map_text_fromMapBody {call : String} {arguments : List String} :
    (fromMapBody call arguments).map Step.text =
      if arguments = [] then ["return " ++ call ++ "();"]
      else ("return " ++ call ++ "(") :: (arguments ++ [");"]) := by
  cases arguments with
  | nil => rfl
  | cons argument arguments =>
      rw [if_neg (by simp), fromMapBody, List.map_append, List.map_cons, map_text_line]
      · rfl
      · simp

/-- The texts of an update up to its last statement. -/
theorem map_text_applyBody {name : String} :
    (applyBody className name fields).map Step.text =
      if fields = [] then [className ++ " " ++ name ++ "() \x7b"]
      else (className ++ " " ++ name ++ "(\x7b") ::
        ((fields.map fun field => (Parameter.ofField field).text) ++
          "\x7d) \x7b" :: fields.map fun field => (Assignment.ofField field).text) := by
  cases fields with
  | nil => rfl
  | cons field fields =>
      rw [if_neg (by simp), applyBody]
      · simp [Function.comp_def]
      · simp

end Members

/-- The type of a parameter is spelled as a type with the same user models. -/
theorem exists_text_eq_parameterType (type : DartType) :
    ∃ spelled : DartType, spelled.text = parameterType type ∧
      spelled.modelNames = type.modelNames := by
  unfold parameterType
  split
  · exact ⟨.scalar .dynamic false, rfl, rfl⟩
  · refine ⟨type.orNull, rfl, ?_⟩
    cases type <;> rfl

/-! ## Descriptions -/

/-- What holds of the elements of all groups and of the separator holds of what they are joined
to. -/
theorem forall_mem_intercalate {α : Type} {P : α → Prop} {separator : List α}
    {groups : List (List α)} (hseparator : ∀ a ∈ separator, P a)
    (hgroups : ∀ group ∈ groups, ∀ a ∈ group, P a) :
    ∀ a ∈ separator.intercalate groups, P a := by
  induction groups with
  | nil => simp
  | cons group groups ih =>
      rw [List.forall_mem_cons] at hgroups
      cases groups with
      | nil =>
          rw [List.intercalate_singleton]
          exact hgroups.1
      | cons next groups =>
          rw [List.intercalate_cons_cons, List.forall_mem_append, List.forall_mem_append]
          exact ⟨⟨hgroups.1, hseparator⟩, ih hgroups.2⟩

/-- What holds of the fixed pieces, of the class and of the fields holds of all pieces of a
description. -/
theorem forall_mem_descriptionPieces {P : Piece → Prop} {className : String}
    {fields : List Field} (hclass : P (.plain className))
    (hfixed : ∀ text ∈ ["\x7b", ": ", ", ", "\x7d"], P (.plain text))
    (hfields : ∀ field ∈ fields, P (.plain field.storageName) ∧ P (.value field.storageName)) :
    ∀ piece ∈ descriptionPieces className fields, P piece := by
  simp only [List.forall_mem_cons] at hfixed
  obtain ⟨hopening, hcolon, hcomma, hclosing, -⟩ := hfixed
  have hgroups : ∀ group ∈ fields.map fieldPieces, ∀ piece ∈ group, P piece := by
    rw [List.forall_mem_map]
    intro field hfield
    rcases hfields field hfield with ⟨hname, hvalue⟩
    simp [fieldPieces, hname, hcolon, hvalue]
  have hjoined : ∀ piece ∈ [Piece.plain ", "].intercalate (fields.map fieldPieces), P piece :=
    forall_mem_intercalate (by simpa using hcomma) hgroups
  rw [descriptionPieces, List.forall_mem_append, List.forall_mem_cons, List.forall_mem_cons,
    List.forall_mem_singleton]
  exact ⟨⟨hclass, hopening, hjoined⟩, hclosing⟩

end Memberwise
