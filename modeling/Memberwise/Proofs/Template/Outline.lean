import Memberwise.Proofs.Template.Fragments

/-!
# Outlines of members

The depth of every line can be read off the text of a member: two leading blanks are one level.
The steps of a member begin and end outside of all indented parts and never end a part that has
not begun, and only what the fields contribute to a conversion is indented twice.

Main definitions:

- {lit}`Layout.readLines`: the lines that a printed text is read as.
- {lit}`Layout.NeverSaturates`: whether steps end only parts that have begun.
- {lit}`Layout.IsOutlined`: what the depths of a member are.

Main results:

- Theorem {lit}`Layout.readLines_render`: printed lines are read as they were.
- Theorem {lit}`Layout.depthAfter?_eq_some_iff`: when steps have a depth behind them.
- Theorem {lit}`Layout.isOutlined_of_depthAfter?`: steps that come back to where they began.
- Theorems {lit}`isOutlined_toMapSteps`, {lit}`isOutlined_fromMapSteps`,
  {lit}`isOutlined_applySteps` and {lit}`isOutlined_toStringSteps`: the outlines of the members.
- Theorem {lit}`render_losesNoStructure`: both together.
-/

namespace Memberwise

open Memberwise.Dart Memberwise.Layout Memberwise.Template

namespace Layout

/-! ## Reading lines -/

/-- The line that a printed line is read as: every two leading blanks are a level of depth. -/
def readLine : List Char → Line
  | ' ' :: ' ' :: rest =>
      let line := readLine rest
      { line with depth := line.depth + 1 }
  | text => ⟨0, String.ofList text⟩

/-- The lines that a printed text is read as. -/
def readLines (text : String) : List Line :=
  (text.toList.splitOn '\n').map readLine

/-- Whether nothing in a line can be taken for its end or its indentation, and its depth is printed
if it has one. -/
structure Line.IsLegible (line : Line) : Prop where
  noFeed : '\n' ∉ line.text.toList
  noBlank : line.text.toList.head? ≠ some ' '
  depth_of_empty : line.text = "" → line.depth = 0

instance (line : Line) : Decidable line.IsLegible :=
  decidable_of_iff
    ('\n' ∉ line.text.toList ∧ line.text.toList.head? ≠ some ' ' ∧
      (line.text = "" → line.depth = 0))
    ⟨fun h => ⟨h.1, h.2.1, h.2.2⟩, fun h => ⟨h.noFeed, h.noBlank, h.depth_of_empty⟩⟩

/-- Two blanks for every level in front of a text that begins with none are read as its depth. -/
theorem readLine_indented (depth : Nat) {text : List Char} (h : text.head? ≠ some ' ') :
    readLine (List.replicate (2 * depth) ' ' ++ text) = ⟨depth, String.ofList text⟩ := by
  induction depth with
  | zero =>
      rw [Nat.mul_zero, List.replicate_zero, List.nil_append]
      unfold readLine
      split
      · simp at h
      · rfl
  | succ depth ih =>
      have hindent : List.replicate (2 * (depth + 1)) ' ' =
          ' ' :: ' ' :: List.replicate (2 * depth) ' ' := rfl
      rw [hindent, List.cons_append, List.cons_append, readLine, ih]

/-- A legible line is read as it was. -/
theorem readLine_render {line : Line} (h : line.IsLegible) :
    readLine line.render.toList = line := by
  obtain ⟨depth, text⟩ := line
  unfold Line.render
  split
  · rename_i hempty
    have htext : text = "" := String.isEmpty_iff.mp hempty
    have hdepth : depth = 0 := h.depth_of_empty htext
    rw [htext, hdepth]
    rfl
  · rw [String.toList_append, String.toList_ofList, readLine_indented depth h.noBlank,
      String.ofList_toList]

/-- No line feed is printed in a legible line. -/
theorem lineFeed_not_mem_render {line : Line} (h : line.IsLegible) :
    '\n' ∉ line.render.toList := by
  rcases exists_toList_render line with ⟨indentation, hline⟩
  rw [hline, List.mem_append, not_or]
  exact ⟨by simp, h.noFeed⟩

/-- Legible lines are read as they were. -/
theorem readLines_render {lines : List Line} (hne : lines ≠ [])
    (h : ∀ line ∈ lines, line.IsLegible) : readLines (render lines) = lines := by
  have hfeeds : ∀ printed ∈ lines.map fun line => line.render.toList, '\n' ∉ printed := by
    rw [List.forall_mem_map]
    exact fun line hline => lineFeed_not_mem_render (h line hline)
  have hread : ∀ line ∈ lines, readLine line.render.toList = line :=
    fun line hline => readLine_render (h line hline)
  rw [readLines, toList_render, List.splitOn_intercalate '\n' hfeeds (by simpa using hne),
    List.map_map]
  exact (List.map_congr_left hread).trans (List.map_id lines)

/-! ## Depths of steps -/

/-- Whether a step ends an indented part. -/
def Step.dedents : Step → Bool
  | line _ => false
  | blank => false
  | opening _ => false
  | closing _ => true
  | reopening _ => true

/-- Whether every step that ends an indented part stands where one has begun. -/
def NeverSaturates (depth : Nat) (steps : List Step) : Prop :=
  ∀ before step after, steps = before ++ step :: after → step.dedents = true →
    0 < before.foldl Step.next depth

/-- The depth behind a step, if it ends no part that has not begun. -/
def Step.next? (depth : Nat) (step : Step) : Option Nat :=
  if step.dedents = true ∧ depth = 0 then none else some (step.next depth)

/-- The depth behind some steps, if they end no part that has not begun. -/
def depthAfter? (depth : Nat) (steps : List Step) : Option Nat :=
  steps.foldlM Step.next? depth

/-- No steps end no part. -/
theorem neverSaturates_nil (depth : Nat) : NeverSaturates depth [] := by
  intro before step after h
  simp at h

/-- The first step stands where a part has begun if it ends one, and the others do behind it. -/
theorem neverSaturates_cons {depth : Nat} {step : Step} {steps : List Step} :
    NeverSaturates depth (step :: steps) ↔
      (step.dedents = true → 0 < depth) ∧ NeverSaturates (step.next depth) steps := by
  constructor
  · intro h
    refine ⟨h [] step steps rfl, ?_⟩
    rintro before inner after rfl
    exact h (step :: before) inner after rfl
  · rintro ⟨hstep, hsteps⟩ before inner after heq
    cases before with
    | nil =>
        obtain ⟨rfl, -⟩ := List.cons.inj heq
        exact hstep
    | cons first before =>
        obtain ⟨rfl, hrest⟩ := List.cons.inj heq
        exact hsteps before inner after hrest

/-- A step has a depth behind it unless it ends a part that has not begun. -/
theorem next?_eq_some_iff {depth inner : Nat} {step : Step} :
    step.next? depth = some inner ↔
      (step.dedents = true → 0 < depth) ∧ step.next depth = inner := by
  rw [Step.next?, Option.ite_none_left_eq_some, Option.some.injEq, not_and, Nat.pos_iff_ne_zero]

/-- Steps have a depth behind them exactly if they never end a part that has not begun. -/
theorem depthAfter?_eq_some_iff {depth inner : Nat} {steps : List Step} :
    depthAfter? depth steps = some inner ↔
      NeverSaturates depth steps ∧ steps.foldl Step.next depth = inner := by
  -- the induction is on the steps, at all depths, since every step goes on at a depth of its own
  induction steps generalizing depth with
  | nil => simp [depthAfter?, neverSaturates_nil]
  | cons step steps ih =>
      have hcons : depthAfter? depth (step :: steps) =
          (step.next? depth).bind fun next => depthAfter? next steps := rfl
      rw [hcons, Option.bind_eq_some_iff, neverSaturates_cons, List.foldl_cons, and_assoc, ← ih]
      constructor
      · rintro ⟨next, hstep, hsteps⟩
        obtain ⟨hdedents, rfl⟩ := next?_eq_some_iff.mp hstep
        exact ⟨hdedents, hsteps⟩
      · rintro ⟨hdedents, hsteps⟩
        exact ⟨step.next depth, next?_eq_some_iff.mpr ⟨hdedents, rfl⟩, hsteps⟩

/-- The depth behind two parts is counted through the first one. -/
theorem depthAfter?_append (depth : Nat) (first second : List Step) :
    depthAfter? depth (first ++ second) =
      (depthAfter? depth first).bind fun inner => depthAfter? inner second :=
  List.foldlM_append

/-- Lines that are written one by one leave the depth as it is. -/
theorem depthAfter?_map_line {α : Type} (depth : Nat) (items : List α) (text : α → String) :
    depthAfter? depth (items.map fun item => .line (text item)) = some depth := by
  induction items with
  | nil => rfl
  | cons item items ih => exact ih

/-- Lines behind one that begins a part stand in it. -/
theorem depthAfter?_opening {α : Type} (depth : Nat) (head : String) (items : List α)
    (text : α → String) :
    depthAfter? depth (.opening head :: items.map fun item => .line (text item)) =
      some (depth + 1) :=
  depthAfter?_map_line (depth + 1) items text

/-- A part with lines in it ends where it begins. -/
theorem depthAfter?_part (depth : Nat) (head tail : String) (texts : List String) :
    depthAfter? depth (.opening head :: texts.map Step.line ++ [.closing tail]) = some depth := by
  have hopening : depthAfter? depth (.opening head :: texts.map Step.line) = some (depth + 1) :=
    depthAfter?_opening depth head texts fun text => text
  have hclosing : depthAfter? (depth + 1) [.closing tail] = some depth := by
    rw [depthAfter?_eq_some_iff, neverSaturates_cons]
    exact ⟨⟨fun _ => Nat.succ_pos depth, neverSaturates_nil _⟩, rfl⟩
  rw [depthAfter?_append, hopening, Option.bind_some, hclosing]

/-! ## Outlines -/

/-- Whether the lines of some steps begin and end outside of all indented parts, no step ends a
part that has not begun, and given entries are indented twice, and all other lines once at
most. -/
structure IsOutlined (steps : List Step) (entries : List String) : Prop where
  starts : (lines 0 steps).head?.map Line.depth = some 0
  ends : (lines 0 steps).getLast?.map Line.depth = some 0
  neverSaturates : NeverSaturates 0 steps
  foldl_next : steps.foldl Step.next 0 = 0
  indented : ∃ before after, lines 0 steps = before ++ entries.map (Line.mk 2) ++ after ∧
    ∀ line ∈ before ++ after, line.depth ≤ 1

/-- The first line of any steps is not indented. -/
theorem depth_head?_lines {steps : List Step} (h : steps ≠ []) :
    (lines 0 steps).head?.map Line.depth = some 0 := by
  cases steps with
  | nil => contradiction
  | cons step steps => cases step <;> rfl

/-- A step that ends a part writes its line at the depth behind it. -/
theorem depth_getLast?_lines (steps : List Step) (text : String) :
    (lines 0 (steps ++ [Step.closing text])).getLast?.map Line.depth =
      some ((steps ++ [Step.closing text]).foldl Step.next 0) := by
  rw [lines_append, List.foldl_append]
  simp [lines, Step.write, Step.next]

/-- Steps that end a part last and come back to where they began are outlined if the lines around
the entries are. -/
theorem isOutlined_of_depthAfter? {steps : List Step} {entries : List String}
    {before after : List Line} (hlast : ∃ first text, steps = first ++ [.closing text])
    (hdepth : depthAfter? 0 steps = some 0)
    (hlines : lines 0 steps = before ++ entries.map (Line.mk 2) ++ after)
    (hbounds : ∀ line ∈ before ++ after, line.depth ≤ 1) : IsOutlined steps entries := by
  obtain ⟨first, text, rfl⟩ := hlast
  obtain ⟨hsaturates, hfoldl⟩ := depthAfter?_eq_some_iff.mp hdepth
  exact
    { starts := depth_head?_lines (by simp)
      ends := by rw [depth_getLast?_lines, hfoldl]
      neverSaturates := hsaturates
      foldl_next := hfoldl
      indented := ⟨before, after, hlines, hbounds⟩ }

/-- Steps without entries are outlined if none of their lines is indented twice. -/
theorem isOutlined_nil_of_depthAfter? {steps : List Step}
    (hlast : ∃ first text, steps = first ++ [.closing text])
    (hdepth : depthAfter? 0 steps = some 0) (hbounds : ∀ line ∈ lines 0 steps, line.depth ≤ 1) :
    IsOutlined steps [] := by
  have hlines : lines 0 steps = lines 0 steps ++ [].map (Line.mk 2) ++ [] := by simp
  refine isOutlined_of_depthAfter? hlast hdepth hlines ?_
  rwa [List.append_nil]

end Layout

/-! ## Members -/

section Members

variable (className : String) (fields : List Field) (config : Config)

/-- A conversion that is indented once in its header and goes back behind its body is
outlined. -/
theorem isOutlined_conversion {header body : List Step} {frame : Frame} {entries : List String}
    {text : String} (hheader : depthAfter? 0 header = some 1)
    (hbody : depthAfter? 1 body = some 1)
    (hlines : lines 0 (header ++ body ++ [.closing text]) =
      lines 0 header ++ frame.around entries)
    (hbefore : ∀ line ∈ lines 0 header ++ frame.before, line.depth ≤ 1)
    (hafter : ∀ line ∈ frame.after, line.depth ≤ 1) :
    IsOutlined (header ++ body ++ [.closing text]) entries := by
  refine @isOutlined_of_depthAfter? _ entries (lines 0 header ++ frame.before) frame.after
    ⟨_, _, rfl⟩ ?_ ?_ ?_
  · rw [depthAfter?_append, depthAfter?_append, hheader, Option.bind_some, hbody]
    rfl
  · rw [hlines, Frame.around, List.append_assoc, List.append_assoc, List.append_assoc]
  · exact List.forall_mem_append.mpr ⟨hbefore, hafter⟩

/-- The conversion to a map is outlined, with its entries indented twice. -/
theorem isOutlined_toMapSteps :
    IsOutlined (toMapSteps fields config) (fragments config fields .entry) := by
  have hheader : depthAfter? 0 (toMapHeader config) = some 1 := by
    unfold toMapHeader
    split <;> rfl
  have hbody : ∀ entries, depthAfter? 1 (toMapBody entries) = some 1 := by
    intro entries
    cases entries with
    | nil => rfl
    | cons entry entries => exact depthAfter?_part 1 _ _ (entry :: entries)
  have hbefore : ∀ line ∈ lines 0 (toMapHeader config) ++ (toMapFrame fields.isEmpty).before,
      line.depth ≤ 1 := by
    unfold toMapHeader toMapFrame
    split <;> split <;> simp [lines, Step.write, Step.next]
  have hafter : ∀ line ∈ (toMapFrame fields.isEmpty).after, line.depth ≤ 1 := by
    unfold toMapFrame
    split <;> simp
  exact isOutlined_conversion hheader (hbody _) lines_toMapSteps hbefore hafter

/-- The conversion from a map is outlined, with its arguments indented twice. -/
theorem isOutlined_fromMapSteps :
    IsOutlined (fromMapSteps className fields config) (fragments config fields .argument) := by
  let call := constructorCall className config.options
  have hheader : depthAfter? 0 (fromMapHeader className config) = some 1 := by
    unfold fromMapHeader
    split <;> rfl
  have hbody : ∀ arguments, depthAfter? 1 (fromMapBody call arguments) = some 1 := by
    intro arguments
    cases arguments with
    | nil => rfl
    | cons argument arguments => exact depthAfter?_part 1 _ _ (argument :: arguments)
  have hbefore : ∀ line ∈ lines 0 (fromMapHeader className config) ++
      (fromMapFrame call fields.isEmpty).before, line.depth ≤ 1 := by
    unfold fromMapHeader fromMapFrame
    split <;> split <;> simp [lines, Step.write, Step.next]
  have hafter : ∀ line ∈ (fromMapFrame call fields.isEmpty).after, line.depth ≤ 1 := by
    unfold fromMapFrame
    split <;> simp
  exact isOutlined_conversion hheader (hbody _) lines_fromMapSteps hbefore hafter

/-- The update is outlined, and nothing in it is indented twice. -/
theorem isOutlined_applySteps : IsOutlined (applySteps className fields config) [] := by
  have hbody : depthAfter? 0 (applyBody className config.names.apply fields) = some 1 := by
    cases fields with
    | nil => rfl
    | cons field others =>
        rw [applyBody, depthAfter?_append, depthAfter?_opening, Option.bind_some]
        · exact depthAfter?_map_line 1 (field :: others) _
        · simp
  refine isOutlined_nil_of_depthAfter?
    ⟨applyBody className config.names.apply fields ++ [.line "return this;"], "\x7d", ?_⟩ ?_ ?_
  · rw [List.append_assoc]
    rfl
  · rw [applySteps, depthAfter?_append, hbody]
    rfl
  · rw [lines_applySteps]
    cases fields.isEmpty <;>
      simp [fill, SkeletonPart.fill, MemberKind.skeleton, or_imp, forall_and]

/-- The description is outlined, and nothing in it is indented twice. -/
theorem isOutlined_toStringSteps : IsOutlined (toStringSteps className fields config) [] := by
  refine isOutlined_nil_of_depthAfter? ⟨[_, _, _], "\x7d", rfl⟩ rfl ?_
  simp [toStringSteps, lines, Step.write, Step.next]

end Members

namespace MemberKind

/-- The steps of a member. -/
def steps (className : String) (fields : List Field) (config : Config) :
    MemberKind → List Step
  | toMap => toMapSteps fields config
  | fromMap => fromMapSteps className fields config
  | apply => applySteps className fields config
  | toString => toStringSteps className fields config

/-- What the fields contribute to a conversion, one line for each of them. -/
def entries (config : Config) (fields : List Field) : MemberKind → List String
  | toMap => fragments config fields .entry
  | fromMap => fragments config fields .argument
  | apply => []
  | toString => []

end MemberKind

/-- No structure is lost in print.  Legible lines, if there are any, are read from what is printed
with their depths and their texts.  The lines of every generated member begin and end outside of
all indented parts, and its steps never end a part that has not begun.  The lines that the fields
contribute to the two conversions are indented twice, and all other lines once at most. -/
theorem render_losesNoStructure :
    (∀ lines : List Line, lines ≠ [] → (∀ line ∈ lines, line.IsLegible) →
      readLines (render lines) = lines) ∧
    ∀ (kind : MemberKind) (className : String) (fields : List Field) (config : Config),
      (kind.member className fields config).lines =
          lines 0 (kind.steps className fields config) ∧
        IsOutlined (kind.steps className fields config) (kind.entries config fields) := by
  refine ⟨fun lines hne hlegible => readLines_render hne hlegible, ?_⟩
  intro kind className fields config
  cases kind with
  | toMap => exact ⟨rfl, isOutlined_toMapSteps fields config⟩
  | fromMap => exact ⟨rfl, isOutlined_fromMapSteps className fields config⟩
  | apply => exact ⟨rfl, isOutlined_applySteps className fields config⟩
  | toString => exact ⟨rfl, isOutlined_toStringSteps className fields config⟩

/-- A line that is indented behind a blank one, and texts that end in blanks. -/
theorem render_losesNoStructure_blank :
    let lines : List Line := [⟨0, "a \x7b "⟩, ⟨0, ""⟩, ⟨2, "b;\r"⟩, ⟨1, "\x7d  "⟩, ⟨0, ""⟩]
    lines ≠ [] ∧ (∀ line ∈ lines, line.IsLegible) ∧ readLines (render lines) = lines := by
  intro lines
  have hne : lines ≠ [] := List.cons_ne_nil _ _
  have hlegible : ∀ line ∈ lines, line.IsLegible := by decide
  exact ⟨hne, hlegible, render_losesNoStructure.1 lines hne hlegible⟩

end Memberwise
