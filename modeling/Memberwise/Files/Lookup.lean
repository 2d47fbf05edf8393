import Memberwise.Files.Tree

/-!
# Looking things up

Computations that look at files and at the standard input, and change neither.  They
are run on a tree here, and on the real file system by the command line.

Main results:

- Theorem {lit}`Lookup.run_bind`: a computation in two parts is run one part after the
  other.
-/

namespace Memberwise.Files

/-- A computation that may look at files and at the standard input. -/
inductive Lookup (α : Type) where
  | done (value : α)
  | readFile (path : String) (next : Except FileError ByteArray → Lookup α)
  /-- Asks whether a path leads to a directory, to a file, or nowhere. -/
  | isDirectory (path : String) (next : Option Bool → Lookup α)
  /-- Asks for the names in a directory, and whether each is a directory itself. -/
  | children (path : String)
      (next : Except FileError (List (String × Bool)) → Lookup α)
  | standardInput (next : Except FileError ByteArray → Lookup α)

/-- What a computation may look at. -/
structure Surroundings where
  tree : Tree := {}
  input : ByteArray := ByteArray.empty

namespace Lookup

/-- Continues a computation with another that depends on its value. -/
def bind {α β : Type} : Lookup α → (α → Lookup β) → Lookup β
  | done value, next => next value
  | readFile path rest, next => readFile path fun answer => (rest answer).bind next
  | isDirectory path rest, next => isDirectory path fun answer => (rest answer).bind next
  | children path rest, next => children path fun answer => (rest answer).bind next
  | standardInput rest, next => standardInput fun answer => (rest answer).bind next

instance : Monad Lookup where
  pure := done
  bind := bind

/-- Runs a computation on a tree. -/
def run {α : Type} (surroundings : Surroundings) : Lookup α → α
  | done value => value
  | readFile path next => (next (surroundings.tree.readFile path)).run surroundings
  | isDirectory path next => (next (surroundings.tree.isDirectory? path)).run surroundings
  | children path next => (next (surroundings.tree.children path)).run surroundings
  | standardInput next => (next (.ok surroundings.input)).run surroundings

/-- A value is run to itself. -/
@[simp]
theorem run_pure {α : Type} (surroundings : Surroundings) (value : α) :
    (pure value : Lookup α).run surroundings = value :=
  rfl

/-- A computation in two parts is run one part after the other. -/
@[simp]
theorem run_bind {α β : Type} (surroundings : Surroundings) (first : Lookup α)
    (next : α → Lookup β) :
    (first >>= next).run surroundings =
      (next (first.run surroundings)).run surroundings := by
  change (first.bind next).run surroundings = _
  induction first with
  | done value => rfl
  | readFile path rest ih => exact ih _
  | isDirectory path rest ih => exact ih _
  | children path rest ih => exact ih _
  | standardInput rest ih => exact ih _

/-! ## Questions -/

/-- The bytes of a file. -/
def file (path : String) : Lookup (Except FileError ByteArray) :=
  readFile path done

/-- The bytes of the standard input. -/
def input : Lookup (Except FileError ByteArray) :=
  standardInput done

/-- Whether a path leads anywhere. -/
def pathExists (path : String) : Lookup Bool :=
  isDirectory path fun answer => done answer.isSome

/-- Whether a path leads to a directory. -/
def pathIsDirectory (path : String) : Lookup Bool :=
  isDirectory path fun answer => done (answer == some true)

/-- The names in a directory in increasing order, and whether each is a directory
itself. -/
def sortedChildren (path : String) : Lookup (Except FileError (List (String × Bool))) :=
  children path fun answer =>
    done (answer.map fun entries =>
      entries.mergeSort fun left right => decide (left.1 ≤ right.1))

/-- The text of some bytes. -/
def decode (bytes : Except FileError ByteArray) : Except FileError String :=
  match bytes with
  | .error error => .error error
  | .ok bytes =>
      match String.fromUTF8? bytes with
      | some text => .ok text
      | none => .error .notText

/-- The text of a file. -/
def textFile (path : String) : Lookup (Except FileError String) := do
  return decode (← file path)

end Lookup

end Memberwise.Files
