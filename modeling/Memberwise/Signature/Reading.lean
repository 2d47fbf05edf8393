import Memberwise.Dart.Type
import Memberwise.Signature.Arguments

/-!
# Reading type signatures

A signature is classified one level at a time: an exact scalar name first, then
{lit}`List` and {lit}`Map` by the name before the first bracket, and anything
else as a user model.  Reading never fails: an argument that is missing or blank
is implied.

Main results:

- Theorem {lit}`Argument.length_written_lt`: a written argument is shorter than
  the signature it stands in.
-/

namespace Memberwise.Signature

open Memberwise.Text Memberwise.Dart

/-! ## Nullability -/

/-- Trims a signature and takes one trailing question mark off it; tells whether
there was one. -/
def stripNullMark (signature : List Char) : List Char × Bool :=
  let trimmed := trim signature
  match trimmed.getLast? with
  | some '?' => (trimEnd trimmed.dropLast, true)
  | _ => (trimmed, false)

/-- Taking off the null mark never lengthens a signature. -/
theorem length_stripNullMark_le (signature : List Char) :
    (stripNullMark signature).1.length ≤ signature.length := by
  have htrim := length_trim_le signature
  simp only [stripNullMark]
  split
  · have hend := length_trimEnd_le (trim signature).dropLast
    have hlast := (List.dropLast_sublist (trim signature)).length_le
    exact Nat.le_trans hend (Nat.le_trans hlast htrim)
  · exact htrim

/-! ## One level -/

/-- A type argument: written out, or left out and so implied. -/
inductive Argument where
  | written (text : List Char)
  | implied (scalar : Scalar)
deriving DecidableEq, Repr

namespace Argument

/-- The argument that a trimmed slot stands for: a blank slot means
{lit}`dynamic`. -/
def ofSlot (slot : List Char) : Argument :=
  match slot with
  | [] => .implied .dynamic
  | _ => .written slot

/-- The text of an argument. -/
def text : Argument → List Char
  | written text => text
  | implied scalar => scalar.name.toList

end Argument

/-- What one level of a signature says. -/
inductive Shape where
  | scalar (name : Scalar)
  | list (element : Argument)
  | map (key value : Argument)
  | model (name : List Char)
deriving DecidableEq, Repr

/-- The shape of a signature without its null mark. -/
def shape (base : List Char) : Shape :=
  match Scalar.ofName? (String.ofList base) with
  | some scalar => .scalar scalar
  | none =>
      let head := (application base).head
      if head = ['L', 'i', 's', 't'] then
        match arguments base with
        | [] => .list (.implied .dynamic)
        | element :: _ => .list (Argument.ofSlot element)
      else if head = ['M', 'a', 'p'] then
        match arguments base with
        | [] => .map (.implied .string) (.implied .dynamic)
        | [value] => .map (.implied .string) (Argument.ofSlot value)
        | key :: value :: _ => .map (Argument.ofSlot key) (Argument.ofSlot value)
      else
        .model base

/-- One level of a signature: its shape, and whether it carries a null mark. -/
structure Level where
  shape : Shape
  nullable : Bool
deriving DecidableEq, Repr

/-- Classifies the outermost level of a signature. -/
def classify (signature : List Char) : Level :=
  let (base, nullable) := stripNullMark signature
  ⟨shape base, nullable⟩

/-- The arguments that a shape holds. -/
def Shape.arguments : Shape → List Argument
  | scalar _ => []
  | list element => [element]
  | map key value => [key, value]
  | model _ => []

/-- A written argument is the slot it came from. -/
theorem Argument.eq_of_ofSlot_eq_written {slot text : List Char}
    (h : Argument.ofSlot slot = .written text) : text = slot := by
  unfold Argument.ofSlot at h
  split at h <;> simp_all

/-- A written argument of a shape is one of the arguments of the text. -/
theorem mem_arguments_of_written {base text : List Char}
    (h : Argument.written text ∈ (shape base).arguments) :
    text ∈ arguments base := by
  unfold shape at h
  split at h
  · simp [Shape.arguments] at h
  · simp only at h
    split at h
    · split at h
      · simp [Shape.arguments] at h
      · rename_i hargs
        simp only [Shape.arguments, List.mem_singleton] at h
        simp [hargs, Argument.eq_of_ofSlot_eq_written h.symm]
    · split at h
      · split at h
        · simp [Shape.arguments] at h
        · rename_i hargs
          simp only [Shape.arguments, List.mem_cons, List.not_mem_nil, or_false,
            reduceCtorEq, false_or] at h
          simp [hargs, Argument.eq_of_ofSlot_eq_written h.symm]
        · rename_i hargs
          simp only [Shape.arguments, List.mem_cons, List.not_mem_nil, or_false] at h
          rcases h with h | h <;> simp [hargs, Argument.eq_of_ofSlot_eq_written h.symm]
      · simp [Shape.arguments] at h

/-- A written argument is shorter than the signature it stands in. -/
theorem Argument.length_written_lt {signature text : List Char}
    (h : Argument.written text ∈ (classify signature).shape.arguments) :
    text.length < signature.length :=
  Nat.lt_of_lt_of_le (length_argument_lt (mem_arguments_of_written h))
    (length_stripNullMark_le signature)

/-! ## The whole tree -/

/-- Reads the tree of a signature. -/
def read (signature : List Char) : DartType :=
  match _ : classify signature with
  | ⟨.scalar name, nullable⟩ => .scalar name nullable
  | ⟨.model name, nullable⟩ => .model (String.ofList name) nullable
  | ⟨.list element, nullable⟩ =>
      .list (match element with
        | .implied scalar => .scalar scalar false
        | .written text => read text) nullable
  | ⟨.map key value, nullable⟩ =>
      .map
        (match key with
        | .implied scalar => .scalar scalar false
        | .written text => read text)
        (match value with
        | .implied scalar => .scalar scalar false
        | .written text => read text) nullable
termination_by signature.length
decreasing_by
  all_goals
    apply Argument.length_written_lt
    simp_all [Shape.arguments]

/-- The type that a signature declares. -/
def typeOf (signature : String) : DartType :=
  read signature.toList

end Memberwise.Signature
