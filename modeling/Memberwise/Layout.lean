/-!
# Layout of generated code

Generated code is a list of lines, each with its depth of indentation.  A member
is laid out by steps that write a line and move the depth.

Main results:

- Theorem {lit}`lines_append`: steps are laid out one part after another, each
  starting at the depth that the part before it left.
-/

namespace Memberwise.Layout

/-! ## Lines -/

/-- A line of code; an empty text is a blank line. -/
structure Line where
  depth : Nat
  text : String
deriving DecidableEq, Repr

/-- A line as it is printed: two spaces for every level of depth, and nothing at
all for a blank line. -/
def Line.render (line : Line) : String :=
  if line.text.isEmpty then ""
  else String.ofList (List.replicate (2 * line.depth) ' ') ++ line.text

/-- The text of some lines, separated by line feeds. -/
def render (lines : List Line) : String :=
  "\n".intercalate (lines.map Line.render)

/-! ## Steps -/

/-- One step of laying out a member. -/
inductive Step where
  | line (text : String)
  | blank
  /-- Writes a line and indents what follows. -/
  | opening (text : String)
  /-- Ends an indented part and writes a line. -/
  | closing (text : String)
  /-- Ends an indented part, writes a line, and indents what follows. -/
  | reopening (text : String)
deriving DecidableEq, Repr

namespace Step

/-- The line that a step writes at a depth. -/
def write (depth : Nat) : Step → Line
  | line text => ⟨depth, text⟩
  | blank => ⟨0, ""⟩
  | opening text => ⟨depth, text⟩
  | closing text => ⟨depth - 1, text⟩
  | reopening text => ⟨depth - 1, text⟩

/-- The depth after a step. -/
def next (depth : Nat) : Step → Nat
  | line _ => depth
  | blank => depth
  | opening _ => depth + 1
  | closing _ => depth - 1
  | reopening _ => depth - 1 + 1

end Step

/-- The lines that some steps write, starting at a depth. -/
def lines (depth : Nat) : List Step → List Line
  | [] => []
  | step :: steps => step.write depth :: lines (step.next depth) steps

/-- Steps are laid out one part after another. -/
theorem lines_append (depth : Nat) (first second : List Step) :
    lines depth (first ++ second) =
      lines depth first ++ lines (first.foldl Step.next depth) second := by
  induction first generalizing depth with
  | nil => rfl
  | cons step first ih => simp [lines, ih]

/-- Every step writes one line. -/
@[simp]
theorem length_lines (depth : Nat) (steps : List Step) :
    (lines depth steps).length = steps.length := by
  induction steps generalizing depth with
  | nil => rfl
  | cons step steps ih => simp [lines, ih]

end Memberwise.Layout
