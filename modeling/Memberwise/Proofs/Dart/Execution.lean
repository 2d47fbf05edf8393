import Mathlib.Logic.Function.Basic
import Memberwise.Proofs.Dart.Reading
import Memberwise.Proofs.Dart.Value

/-!
# Execution

Statements of a method that assigns instance variables of its receiver: how they are read from
lines of code, and what they do one after another.

Main definitions:

- {lit}`Heap`: what the instance variables of all objects hold.
- {lit}`Statement.execute`: what a statement does.
- {lit}`run`: what the statements of a body do.
- {lit}`readStatement`: the reader of a statement.

Main results:

- Theorems {lit}`execute_guardedAssignment_of_null` and
  {lit}`execute_guardedAssignment_of_ne_null`: an assignment that is guarded by a parameter is made
  unless the argument is null.
- Theorem {lit}`readStatement_append`: such a statement is read, whatever its names are.
-/

namespace Memberwise.Dart

open Memberwise.Text

variable {Object : Type}

/-! ## Objects -/

/-- What the instance variables of all objects hold. -/
abbrev Heap (Object : Type) :=
  Object → String → Value Object

section Heap

variable [DecidableEq Object]

/-- The heap after an instance variable of an object has been assigned. -/
def Heap.assign (heap : Heap Object) (object : Object) (name : String) (value : Value Object) :
    Heap Object :=
  Function.update heap object (Function.update (heap object) name value)

/-- The variable that is assigned holds the value. -/
theorem Heap.assign_self (heap : Heap Object) (object : Object) (name : String)
    (value : Value Object) : heap.assign object name value object name = value := by
  rw [assign, Function.update_self, Function.update_self]

/-- The other variables of the object are left alone. -/
theorem Heap.assign_of_name_ne (heap : Heap Object) (object : Object) {name other : String}
    (h : other ≠ name) (value : Value Object) :
    heap.assign object name value object other = heap object other := by
  rw [assign, Function.update_self, Function.update_of_ne h]

/-- Other objects are left alone. -/
theorem Heap.assign_of_object_ne (heap : Heap Object) {object other : Object} (h : other ≠ object)
    (name : String) (value : Value Object) :
    heap.assign object name value other = heap other := by
  rw [assign, Function.update_of_ne h]

end Heap

/-! ## Statements -/

/-- A statement of a method. -/
inductive Statement where
  /-- Assigns a bare name to an instance variable of the receiver. -/
  | assign (target source : String)
  /-- Executes a statement unless a bare name is null. -/
  | unlessNull (name : String) (body : Statement)
  /-- Returns the receiver. -/
  | returnThis
deriving DecidableEq, Repr

/-- The call of a method on an object, with an argument for each parameter. -/
structure Call (Object : Type) where
  receiver : Object
  parameters : List String
  arguments : String → Value Object

/-- What a bare name denotes in a call: the parameter of the name, or else an instance variable of
the receiver. -/
def Call.value (call : Call Object) (heap : Heap Object) (name : String) : Value Object :=
  if name ∈ call.parameters then call.arguments name else heap call.receiver name

section Execution

variable [DecidableEq Object]

/-- What a statement does: the value that it returns, if it does so, and the heap after it. -/
def Statement.execute (call : Call Object) (heap : Heap Object) :
    Statement → Option (Value Object) × Heap Object
  | assign target source => (none, heap.assign call.receiver target (call.value heap source))
  | unlessNull name body =>
      match call.value heap name with
      | .null => (none, heap)
      | _ => body.execute call heap
  | returnThis => (some (.object call.receiver), heap)

/-- What the statements of a body do, up to the first one that returns a value.  A body without
such a statement returns null. -/
def run (call : Call Object) (heap : Heap Object) : List Statement → Value Object × Heap Object
  | [] => (.null, heap)
  | statement :: statements =>
      match statement.execute call heap with
      | (some value, heap) => (value, heap)
      | (none, heap) => run call heap statements

/-- The statement that assigns a parameter to a variable unless it is null. -/
def guardedAssignment (target parameter : String) : Statement :=
  .unlessNull parameter (.assign target parameter)

section Guarded

variable {call : Call Object} {heap : Heap Object} {target parameter : String}

/-- A guarded assignment does nothing if the argument is null. -/
theorem execute_guardedAssignment_of_null (hparameter : parameter ∈ call.parameters)
    (hnull : call.arguments parameter = .null) :
    (guardedAssignment target parameter).execute call heap = (none, heap) := by
  rw [guardedAssignment, Statement.execute, Call.value, if_pos hparameter, hnull]

/-- A guarded assignment is made if the argument is not null. -/
theorem execute_guardedAssignment_of_ne_null (hparameter : parameter ∈ call.parameters)
    (hvalue : call.arguments parameter ≠ .null) :
    (guardedAssignment target parameter).execute call heap =
      (none, heap.assign call.receiver target (call.arguments parameter)) := by
  have hdenotes : call.value heap parameter = call.arguments parameter := if_pos hparameter
  rw [guardedAssignment, Statement.execute, Statement.execute, hdenotes]
  split
  · contradiction
  · rfl

end Guarded

end Execution

/-! ## Reading statements -/

/-- Reads an assignment that takes up the rest of a line. -/
def readAssignment (chars : List Char) : Option Statement := do
  let chars ← skip "this." chars
  let (target, chars) ← readIdentifier chars
  let chars ← skip " = " chars
  let (source, chars) ← readIdentifier chars
  if chars = [';'] then some (.assign target source) else none

/-- Reads a line that is a statement. -/
def readStatement (line : List Char) : Option Statement :=
  if line = "return this;".toList then some .returnThis
  else
    match skip "if (" line with
    | none => readAssignment line
    | some chars => do
        let (name, chars) ← readIdentifier chars
        let chars ← skip " != null) " chars
        let body ← readAssignment chars
        some (.unlessNull name body)

/-- An assignment is read, whatever its names are. -/
theorem readAssignment_append {target source : String} (htarget : isIdentifier target = true)
    (hsource : isIdentifier source = true) :
    readAssignment ("this.".toList ++ (target.toList ++ (" = ".toList ++
      (source.toList ++ [';'])))) = some (.assign target source) := by
  simp only [readAssignment, skip_append, Option.bind_eq_bind, Option.bind_some]
  rw [readIdentifier_append_of_head? htarget (by simp; decide)]
  simp only [skip_append, Option.bind_some]
  rw [readIdentifier_append_of_head? hsource (by simp; decide)]
  rfl

/-- A guarded assignment is read, whatever its names are. -/
theorem readStatement_append {target parameter : String} (htarget : isIdentifier target = true)
    (hparameter : isIdentifier parameter = true) :
    readStatement ("if (".toList ++ (parameter.toList ++ (" != null) ".toList ++
      ("this.".toList ++ (target.toList ++ (" = ".toList ++ (parameter.toList ++ [';']))))))) =
      some (guardedAssignment target parameter) := by
  rw [readStatement, if_neg (by simp), skip_append]
  simp only [Option.bind_eq_bind]
  rw [readIdentifier_append_of_head? hparameter (by simp; decide)]
  simp only [Option.bind_some, skip_append]
  rw [readAssignment_append htarget hparameter]
  rfl

/-- The statement that returns the receiver is read. -/
theorem readStatement_returnThis : readStatement "return this;".toList = some .returnThis :=
  if_pos rfl

end Memberwise.Dart
