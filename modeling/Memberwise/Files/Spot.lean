import Memberwise.Files.Error
import Memberwise.Files.Path

/-!
# Spots in a file tree

A tree of files and directories, and a spot in it that can be moved from name to name.
A spot knows the directories around it, so every move and every change is local.

Main results:

- Theorem {lit}`childOf_setChild`: a child that has been set is found under its name.
- Theorem {lit}`Spot.enter_cases`: where a move can lead to.
- Theorem {lit}`Spot.entry_enter_up`: what stands at a spot is still there after a move
  to the directory around it and back.
- Theorem {lit}`Spot.root_enter`: moves do not change the tree.
-/

namespace Memberwise.Files

/-! ## Entries -/

/-- What stands at a place of a tree. -/
inductive Entry where
  | file (bytes : ByteArray)
  | directory (children : List (String × Entry))

/-- The named entries of a directory. -/
abbrev Children := List (String × Entry)

/-- Whether an entry is a directory. -/
def Entry.isDirectory : Entry → Bool
  | file _ => false
  | directory _ => true

/-- The child with a name. -/
def childOf (name : String) : Children → Option Entry
  | [] => none
  | child :: children => if child.1 = name then some child.2 else childOf name children

/-- Sets the child with a name. -/
def setChild (name : String) (entry : Entry) : Children → Children
  | [] => [(name, entry)]
  | child :: children =>
      if child.1 = name then (name, entry) :: children
      else child :: setChild name entry children

/-- A child that has been set is found under its name. -/
theorem childOf_setChild (name : String) (entry : Entry) (children : Children) :
    childOf name (setChild name entry children) = some entry := by
  induction children with
  | nil => simp [setChild, childOf]
  | cons child children ih =>
      by_cases hname : child.1 = name
      · simp [setChild, childOf, hname]
      · simp [setChild, childOf, hname, ih]

/-- Setting a child to itself changes nothing. -/
theorem setChild_eq_self {name : String} {entry : Entry} {children : Children}
    (h : childOf name children = some entry) : setChild name entry children = children := by
  induction children with
  | nil => simp [childOf] at h
  | cons child children ih =>
      by_cases hname : child.1 = name
      · simp only [childOf, if_pos hname, Option.some.injEq] at h
        simp [setChild, ← h, ← hname]
      · simp only [childOf, if_neg hname] at h
        simp [setChild, hname, ih h]

/-- The children of a directory after one of them was looked at or changed. -/
def Children.restore (children : Children) (name : String) : Option Entry → Children
  | none => children
  | some entry => setChild name entry children

/-- Looking at a child changes nothing. -/
theorem Children.restore_childOf (children : Children) (name : String) :
    children.restore name (childOf name children) = children := by
  cases hchild : childOf name children with
  | none => rfl
  | some entry => exact setChild_eq_self hchild

/-! ## Spots -/

/-- A spot in a tree. -/
structure Spot where
  /-- What stands there, if anything. -/
  entry : Option Entry
  /-- The name of the spot and the children of the directory around it, then the same for
  that directory, and so on up to the root. -/
  above : List (String × Children)

namespace Spot

/-- The root of a tree. -/
def ofRoot (children : Children) : Spot :=
  ⟨some (.directory children), []⟩

/-- The directory around a spot; the root is around itself. -/
def up (spot : Spot) : Spot :=
  match spot.above with
  | [] => spot
  | (name, children) :: above =>
      ⟨some (.directory (children.restore name spot.entry)), above⟩

/-- Whether a name leads to a child, and not to a directory itself or around it. -/
def isChildName (name : String) : Bool :=
  name ≠ "" && name ≠ "." && name ≠ ".."

/-- Moves to what a name leads to.  The spot that is left behind must be a directory, and
only then the name is looked at. -/
def enter (spot : Spot) (name : String) : Except FileError Spot :=
  match spot.entry with
  | none => .error .notFound
  | some (.file _) => .error .notDirectory
  | some (.directory children) =>
      if isChildName name then
        if isNameShort name then .ok ⟨childOf name children, (name, children) :: spot.above⟩
        else .error .nameTooLong
      else if name = ".." then .ok spot.up
      else .ok spot

/-- Only a directory is entered: by a name that is not too long to what stands under it, to the
directory around it, or to the directory itself. -/
theorem enter_cases {spot next : Spot} {name : String} (h : spot.enter name = .ok next) :
    ∃ children, spot.entry = some (.directory children) ∧
      ((isChildName name = true ∧ isNameShort name = true ∧
          next = ⟨childOf name children, (name, children) :: spot.above⟩) ∨
        (isChildName name = false ∧ name = ".." ∧ next = spot.up) ∨
        (isChildName name = false ∧ name ≠ ".." ∧ next = spot)) := by
  unfold enter at h
  split at h
  · contradiction
  · contradiction
  · rename_i children hentry
    refine ⟨children, hentry, ?_⟩
    split at h
    · rename_i hchild
      split at h
      · rename_i hshort
        cases h
        exact .inl ⟨hchild, hshort, rfl⟩
      · contradiction
    · rename_i hchild
      have hchild : isChildName name = false := by simpa using hchild
      split at h
      · rename_i hup
        cases h
        exact .inr (.inl ⟨hchild, hup, rfl⟩)
      · rename_i hup
        cases h
        exact .inr (.inr ⟨hchild, hup, rfl⟩)

/-- Moves along some names. -/
def walk (spot : Spot) (names : List String) : Except FileError Spot :=
  names.foldlM enter spot

/-- Puts an entry at a spot. -/
def put (spot : Spot) (entry : Entry) : Spot :=
  { spot with entry := some entry }

/-- The entry of the root, if the given entry stands below some directories. -/
def rootEntry : Option Entry → List (String × Children) → Option Entry
  | entry, [] => entry
  | entry, (name, children) :: above =>
      rootEntry (some (.directory (children.restore name entry))) above

/-- The children of the root. -/
def root (spot : Spot) : Children :=
  match rootEntry spot.entry spot.above with
  | some (.directory children) => children
  | _ => []

/-- What stands at a spot is still there after a move to the directory around it and
back. -/
theorem entry_enter_up {name : String} (entry : Entry) (children : Children)
    (above : List (String × Children)) (hchild : isChildName name = true)
    (hshort : isNameShort name = true) :
    ((⟨some entry, (name, children) :: above⟩ : Spot).up.enter name).map Spot.entry =
      .ok (some entry) := by
  simp [up, enter, hchild, hshort, Children.restore, childOf_setChild, Except.map]

/-- Moves do not change what the root holds. -/
theorem rootEntry_enter {spot next : Spot} {name : String} (h : spot.enter name = .ok next) :
    rootEntry next.entry next.above = rootEntry spot.entry spot.above := by
  obtain ⟨children, hentry, ⟨-, -, rfl⟩ | ⟨-, -, rfl⟩ | ⟨-, -, rfl⟩⟩ := enter_cases h
  · rw [rootEntry, Children.restore_childOf, hentry]
  · unfold up
    split
    · rfl
    · rename_i habove
      rw [habove, rootEntry]
  · rfl

/-- Moves do not change the tree. -/
theorem root_enter {spot next : Spot} {name : String} (h : spot.enter name = .ok next) :
    next.root = spot.root := by
  rw [root, root, rootEntry_enter h]

/-- Makes the directories that some names lead through, where there is nothing yet.  The
flag tells whether one of those before had to be made; from then on a file in the way
counts as one that exists already. -/
def makeDirectories (isNew : Bool) (spot : Spot) : List String → Spot × Except FileError Unit
  | [] => (spot, .ok ())
  | name :: names =>
      match spot.enter name with
      | .error error => (spot, .error error)
      | .ok next =>
          match next.entry with
          | some (.directory _) => next.makeDirectories isNew names
          | some (.file _) =>
              (spot, .error (if isNew || names.isEmpty then .alreadyExists else .notDirectory))
          | none => (next.put (.directory [])).makeDirectories true names

end Spot

end Memberwise.Files
