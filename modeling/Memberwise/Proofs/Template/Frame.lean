import Memberwise.Proofs.Template.Skeleton

/-!
# Frames around the fields

A conversion of a class is a header, and a frame around one line for each field.  The frame
knows of the fields only whether there are any.

Main definitions:

- {lit}`Frame`: the lines around those of the fields.
- {lit}`toMapFrame` and {lit}`fromMapFrame`: the frames of the two conversions.

Main results:

- Theorems {lit}`lines_toMapSteps` and {lit}`lines_fromMapSteps`: the lines of a conversion.
-/

namespace Memberwise

open Memberwise.Layout Memberwise.Template

/-! ## Lines of steps -/

namespace Layout

/-- Steps that write lines one by one leave the depth as it is. -/
theorem lines_map_line (depth : Nat) (texts : List String) (steps : List Step) :
    lines depth (texts.map Step.line ++ steps) =
      texts.map (Line.mk depth) ++ lines depth steps := by
  induction texts with
  | nil => rfl
  | cons text texts ih =>
      rw [List.map_cons, List.map_cons, List.cons_append, List.cons_append, lines]
      exact congrArg _ ih

end Layout

namespace Template

/-! ## Frames -/

/-- The lines around those of the fields. -/
structure Frame where
  before : List Line
  after : List Line
deriving DecidableEq, Repr

/-- The frame with its lines around some fragments, one on each line. -/
def Frame.around (frame : Frame) (fragments : List String) : List Line :=
  frame.before ++ fragments.map (Line.mk 2) ++ frame.after

/-- The frame of the entries in a conversion to a map. -/
def toMapFrame (isEmpty : Bool) : Frame :=
  if isEmpty then ⟨[⟨1, "return \x7b\x7d;"⟩], [⟨0, "\x7d"⟩]⟩
  else ⟨[⟨1, "return \x7b"⟩], [⟨1, "\x7d;"⟩, ⟨0, "\x7d"⟩]⟩

/-- The frame of the arguments in a conversion from a map. -/
def fromMapFrame (call : String) (isEmpty : Bool) : Frame :=
  if isEmpty then ⟨[⟨1, "return " ++ call ++ "();"⟩], [⟨0, "\x7d"⟩]⟩
  else ⟨[⟨1, "return " ++ call ++ "("⟩], [⟨1, ");"⟩, ⟨0, "\x7d"⟩]⟩

/-- The body of a conversion to a map is its frame around the entries. -/
theorem lines_toMapBody (entries : List String) :
    lines 1 (toMapBody entries ++ [.closing "\x7d"]) =
      (toMapFrame entries.isEmpty).around entries := by
  cases entries with
  | nil => rfl
  | cons entry entries =>
      rw [toMapBody, List.append_assoc, List.cons_append, lines, Step.next, lines_map_line]
      · rfl
      · simp

/-- The body of a conversion from a map is its frame around the arguments. -/
theorem lines_fromMapBody (call : String) (arguments : List String) :
    lines 1 (fromMapBody call arguments ++ [.closing "\x7d"]) =
      (fromMapFrame call arguments.isEmpty).around arguments := by
  cases arguments with
  | nil => rfl
  | cons argument arguments =>
      rw [fromMapBody, List.append_assoc, List.cons_append, lines, Step.next, lines_map_line]
      · rfl
      · simp

/-! ## Conversions -/

section Conversions

variable {className : String} {fields : List Field} {config : Config}

/-- The body of a conversion to a map is indented once. -/
theorem next_toMapHeader : (toMapHeader config).foldl Step.next 0 = 1 := by
  unfold toMapHeader
  split <;> rfl

/-- The body of a conversion from a map is indented once. -/
theorem next_fromMapHeader : (fromMapHeader className config).foldl Step.next 0 = 1 := by
  unfold fromMapHeader
  split <;> rfl

/-- A conversion to a map is its header, and its frame around the entries of the fields. -/
theorem lines_toMapSteps :
    lines 0 (toMapSteps fields config) =
      lines 0 (toMapHeader config) ++
        (toMapFrame fields.isEmpty).around
          (fields.map fun field => (Entry.ofField config field).text) := by
  rw [toMapSteps, List.append_assoc, lines_append, next_toMapHeader, lines_toMapBody,
    List.isEmpty_map]

/-- A conversion from a map is its header, and its frame around the arguments of the fields. -/
theorem lines_fromMapSteps :
    lines 0 (fromMapSteps className fields config) =
      lines 0 (fromMapHeader className config) ++
        (fromMapFrame (constructorCall className config.options) fields.isEmpty).around
          (fields.map fun field => (NamedArgument.ofField config field).text) := by
  rw [fromMapSteps, List.append_assoc, lines_append, next_fromMapHeader, lines_fromMapBody,
    List.isEmpty_map]

end Conversions

end Template

end Memberwise
