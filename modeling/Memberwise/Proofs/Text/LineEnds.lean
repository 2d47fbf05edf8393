import Mathlib.Data.List.Basic
import Memberwise.Proofs.Text.Identifiers

/-!
# Line ends

A line of source code ends with a line feed, with a carriage return, or with both in this
order.

Main definitions:

- {lit}`IsOneLine`: whether a text has no line end.
- {lit}`physicalLines`: the lines that a text is read as.

Main results:

- Theorem {lit}`physicalLines_intercalate`: texts without line ends are the lines of what
  line feeds make of them.
- Theorem {lit}`physicalLines_intercalate_groups`: blank lines stand between groups of lines.
-/

namespace Memberwise.Text

/-! ## Texts on one line -/

/-- The characters that end a line. -/
def lineEnds : List Char :=
  ['\n', '\r']

/-- Whether a text has no line end. -/
def IsOneLine (text : List Char) : Prop :=
  Avoids lineEnds text

instance (text : List Char) : Decidable (IsOneLine text) :=
  inferInstanceAs (Decidable (Avoids lineEnds text))

@[simp]
theorem isOneLine_nil : IsOneLine [] :=
  avoids_nil

@[simp]
theorem isOneLine_cons {c : Char} {text : List Char} :
    IsOneLine (c :: text) ↔ c ∉ lineEnds ∧ IsOneLine text :=
  avoids_cons

@[simp]
theorem isOneLine_append {left right : List Char} :
    IsOneLine (left ++ right) ↔ IsOneLine left ∧ IsOneLine right :=
  avoids_append

/-- The parts of a text without line ends have none. -/
theorem IsOneLine.of_subset {text part : List Char} (h : IsOneLine text) (hpart : part ⊆ text) :
    IsOneLine part :=
  fun c hc => h c (hpart hc)

/-- An identifier has no line end. -/
theorem isOneLine_of_isIdentifier {name : String} (h : isIdentifier name = true) :
    IsOneLine name.toList :=
  avoids_of_isIdentifier h (by decide)

/-! ## Lines -/

/-- The lines that a text is read as.  There is always a last one, which may be empty. -/
def physicalLines : List Char → List (List Char)
  | [] => [[]]
  | '\r' :: '\n' :: rest => [] :: physicalLines rest
  | c :: rest =>
      if c ∈ lineEnds then [] :: physicalLines rest
      else (physicalLines rest).modifyHead (c :: ·)

/-- A character that ends no line stands in the first one. -/
theorem physicalLines_cons {c : Char} (hc : c ∉ lineEnds) (rest : List Char) :
    physicalLines (c :: rest) = (physicalLines rest).modifyHead (c :: ·) := by
  rw [physicalLines.eq_3 _ _ (by rintro _ rfl; simp [lineEnds] at hc), if_neg hc]

/-- A text without line ends is one line. -/
theorem physicalLines_eq_singleton {line : List Char} (h : IsOneLine line) :
    physicalLines line = [line] := by
  induction line with
  | nil => rfl
  | cons c line ih =>
      rw [isOneLine_cons] at h
      rw [physicalLines_cons h.1, ih h.2, List.modifyHead_cons]

/-- A line feed at the beginning ends an empty line. -/
theorem physicalLines_lineFeed (rest : List Char) :
    physicalLines ('\n' :: rest) = [] :: physicalLines rest :=
  rfl

/-- A line feed ends the line in front of it. -/
theorem physicalLines_append {line : List Char} (h : IsOneLine line) (rest : List Char) :
    physicalLines (line ++ '\n' :: rest) = line :: physicalLines rest := by
  induction line with
  | nil => rfl
  | cons c line ih =>
      rw [isOneLine_cons] at h
      rw [List.cons_append, physicalLines_cons h.1, ih h.2, List.modifyHead_cons]

/-- Texts without line ends that line feeds join are the lines in front of whatever follows
another line feed. -/
theorem physicalLines_intercalate_append {lines : List (List Char)} (hne : lines ≠ [])
    (h : ∀ line ∈ lines, IsOneLine line) (rest : List Char) :
    physicalLines (['\n'].intercalate lines ++ '\n' :: rest) = lines ++ physicalLines rest := by
  induction lines with
  | nil => contradiction
  | cons line lines ih =>
      have hline := h line (by simp)
      cases lines with
      | nil => rw [List.intercalate_singleton, physicalLines_append hline, List.singleton_append]
      | cons next lines =>
          have hrest := ih (by simp) fun other hother => h other (by simp [hother])
          rw [List.intercalate_cons_cons, List.append_assoc, List.append_assoc,
            List.singleton_append, physicalLines_append hline, hrest]
          rfl

/-- Texts without line ends are the lines of what line feeds make of them. -/
theorem physicalLines_intercalate {lines : List (List Char)} (hne : lines ≠ [])
    (h : ∀ line ∈ lines, IsOneLine line) :
    physicalLines (['\n'].intercalate lines) = lines := by
  induction lines with
  | nil => contradiction
  | cons line lines ih =>
      have hline := h line (by simp)
      cases lines with
      | nil => rw [List.intercalate_singleton, physicalLines_eq_singleton hline]
      | cons next lines =>
          have hrest := ih (by simp) fun other hother => h other (by simp [hother])
          rw [List.intercalate_cons_cons, List.append_assoc, List.singleton_append,
            physicalLines_append hline, hrest]

/-- Groups of lines with blank lines between them are read as just that. -/
theorem physicalLines_intercalate_groups {groups : List (List (List Char))} (hne : groups ≠ [])
    (hgroups : ∀ group ∈ groups, group ≠ [] ∧ ∀ line ∈ group, IsOneLine line) :
    physicalLines (['\n', '\n'].intercalate (groups.map (['\n'].intercalate ·))) =
      [[]].intercalate groups := by
  induction groups with
  | nil => contradiction
  | cons group groups ih =>
      rcases hgroups group (by simp) with ⟨hgroup, hlines⟩
      cases groups with
      | nil =>
          rw [List.map_singleton, List.intercalate_singleton, List.intercalate_singleton,
            physicalLines_intercalate hgroup hlines]
      | cons next groups =>
          have hrest := ih (by simp) fun other hother => hgroups other (by simp [hother])
          rw [List.map_cons, List.map_cons, List.intercalate_cons_cons, ← List.map_cons,
            List.append_assoc, List.cons_append, List.singleton_append,
            physicalLines_intercalate_append hgroup hlines, physicalLines_lineFeed, hrest,
            List.intercalate_cons_cons, List.append_assoc, List.singleton_append]

end Memberwise.Text
