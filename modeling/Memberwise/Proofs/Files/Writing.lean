import Memberwise.Files.Tree
import Memberwise.Proofs.Results

/-!
# Writing files

A file that has been written is read back as it was written: a change at a spot keeps every
directory of the tree, so the path that led to the spot still leads there.

Main definitions:

- {lit}`below?`: what stands below an entry under some names.
- {lit}`Keeps`: whether every directory below an entry is one below another entry, too.
- {lit}`Spot.contents` and {lit}`Spot.position`: a whole tree, and the place of a spot in it.
- {lit}`Spot.IsWhole`: the spots that moves and changes lead to.

Main results:

- Theorem {lit}`Spot.IsWhole.below?_contents`: what stands at a spot stands in the tree at its
  place.
- Theorem {lit}`Spot.IsWhole.keeps_put`: a change of what is no directory keeps all directories.
- Theorem {lit}`Spot.exists_walk`: where directories are kept, the same names lead to the same
  places.
- Theorem {lit}`Tree.readFile_of_writeFile`: what is read back after it has been written.
-/

namespace Memberwise.Files

/-! ## Places below an entry -/

/-- What stands below an entry under some names. -/
def below? : Option Entry → List String → Option Entry
  | entry, [] => entry
  | some (.directory children), name :: names => below? (childOf name children) names
  | _, _ :: _ => none

/-- Below nothing there is nothing. -/
@[simp]
theorem below?_none (names : List String) : below? none names = none := by
  cases names <;> rfl

/-- Below a file there is nothing. -/
@[simp]
theorem below?_file_cons (bytes : ByteArray) (name : String) (names : List String) :
    below? (some (.file bytes)) (name :: names) = none :=
  rfl

/-- What stands further below is found in two parts. -/
theorem below?_append (entry : Option Entry) (names more : List String) :
    below? entry (names ++ more) = below? (below? entry names) more := by
  induction names generalizing entry with
  | nil => rfl
  | cons name names ih =>
      match entry with
      | none => simp
      | some (.file bytes) => simp
      | some (.directory children) => exact ih (childOf name children)

/-- A child keeps standing when another one is set. -/
theorem childOf_setChild_of_ne {name other : String} (h : name ≠ other) (entry : Entry)
    (children : Children) : childOf other (setChild name entry children) = childOf other children := by
  induction children with
  | nil => simp [setChild, childOf, h]
  | cons child children ih =>
      by_cases hname : child.1 = name
      · have hother : child.1 ≠ other := by
          rw [hname]
          exact h
        simp [setChild, childOf, hname, h]
      · simp only [setChild, if_neg hname, childOf, ih]

/-- Whether every directory below an entry is one below another entry, too. -/
def Keeps (old new : Option Entry) : Prop :=
  ∀ names children, below? old names = some (.directory children) →
    ∃ children', below? new names = some (.directory children')

/-- What is no directory holds none that could be lost. -/
theorem keeps_of_isDirectory_ne {old : Option Entry}
    (h : ∀ children, old ≠ some (.directory children)) (new : Option Entry) : Keeps old new := by
  intro names children hold
  cases names with
  | nil => exact absurd hold (h children)
  | cons name names =>
      match old with
      | none => simp at hold
      | some (.file bytes) => simp at hold
      | some (.directory others) => exact absurd rfl (h others)

/-- A directory keeps all directories if each of its children does. -/
theorem keeps_directory {children children' : Children}
    (h : ∀ name, Keeps (childOf name children) (childOf name children')) :
    Keeps (some (.directory children)) (some (.directory children')) := by
  intro names found hfound
  cases names with
  | nil => exact ⟨children', rfl⟩
  | cons name names => exact h name names found hfound

/-- Every directory is one below the same entry. -/
theorem Keeps.refl (entry : Option Entry) : Keeps entry entry :=
  fun _ children hfound => ⟨children, hfound⟩

/-- A child that was looked at is found again, unless it was taken away. -/
theorem childOf_restore {name : String} {entry : Option Entry} {children : Children}
    (h : entry = none → childOf name children = none) :
    childOf name (children.restore name entry) = entry := by
  cases entry with
  | none => exact h rfl
  | some entry => exact childOf_setChild name entry children

/-- The other children stay as they are. -/
theorem childOf_restore_of_ne {name other : String} (h : name ≠ other) (entry : Option Entry)
    (children : Children) : childOf other (children.restore name entry) = childOf other children := by
  cases entry with
  | none => rfl
  | some entry => exact childOf_setChild_of_ne h entry children

namespace Spot

/-! ## Spots of a tree -/

/-- The names that lead from the root to a spot. -/
def position (spot : Spot) : List String :=
  (spot.above.map Prod.fst).reverse

/-- The entry of the root, with all changes that were made up to a spot. -/
def contents (spot : Spot) : Option Entry :=
  rootEntry spot.entry spot.above

/-- Whether some directories around an entry have nothing in its place if it is missing. -/
def Fits (entry : Option Entry) (above : List (String × Children)) : Prop :=
  entry = none → ∀ child ∈ above.head?, childOf child.1 child.2 = none

/-- Whether a spot is one that moves and changes lead to: the root is a directory, and nothing
was taken away. -/
structure IsWhole (spot : Spot) : Prop where
  root : ∃ children, spot.contents = some (.directory children)
  fits : Fits spot.entry spot.above

variable {spot next : Spot} {name : String}

/-- Whatever is there fits. -/
theorem fits_some (entry : Entry) (above : List (String × Children)) : Fits (some entry) above :=
  fun hnone => absurd hnone (Option.some_ne_none entry)

/-- The root of a tree is a spot of it. -/
theorem isWhole_ofRoot (root : Children) : (ofRoot root).IsWhole :=
  ⟨⟨root, rfl⟩, fits_some _ _⟩

/-- The contents of a tree are those of its root. -/
theorem IsWhole.contents_eq (h : spot.IsWhole) : spot.contents = some (.directory spot.root) := by
  rcases h.root with ⟨children, hroot⟩
  have hentry : rootEntry spot.entry spot.above = some (.directory children) := hroot
  rw [hroot, Spot.root, hentry]

/-- What stands at a spot stands in the tree under the names that lead there. -/
theorem below?_rootEntry {entry : Option Entry} {above : List (String × Children)}
    (h : Fits entry above) :
    below? (rootEntry entry above) (above.map Prod.fst).reverse = entry := by
  induction above generalizing entry with
  | nil => rfl
  | cons child above ih =>
      rw [List.map_cons, List.reverse_cons, below?_append, rootEntry, ih (fits_some _ _)]
      exact childOf_restore fun hnone => h hnone child rfl

/-- What stands at a spot stands in the tree at its place. -/
theorem IsWhole.below?_contents (h : spot.IsWhole) :
    below? spot.contents spot.position = spot.entry :=
  below?_rootEntry h.fits

/-! ## Moves -/

/-- A move leads to a spot of the same tree. -/
theorem IsWhole.enter (h : spot.IsWhole) (henter : spot.enter name = .ok next) :
    next.IsWhole ∧ next.contents = spot.contents := by
  have hcontents : next.contents = spot.contents := rootEntry_enter henter
  refine ⟨⟨by rw [hcontents]; exact h.root, ?_⟩, hcontents⟩
  obtain ⟨children, hentry, ⟨-, -, rfl⟩ | ⟨-, -, rfl⟩ | ⟨-, -, rfl⟩⟩ := enter_cases henter
  · intro hnone child hchild
    cases hchild
    exact hnone
  · unfold up
    split
    · exact h.fits
    · exact fits_some _ _
  · exact h.fits

/-- The name that leads to a spot is left out on the way up. -/
theorem position_up (spot : Spot) : spot.up.position = spot.position.dropLast := by
  unfold up position
  split
  · rename_i habove
    simp [habove]
  · rename_i habove
    simp [habove]

/-- The place that a name leads to from another place. -/
def positionAfter (position : List String) (name : String) : List String :=
  if isChildName name then position ++ [name]
  else if name = ".." then position.dropLast
  else position

/-- Where a name leads to depends on its place only. -/
theorem position_of_enter (h : spot.enter name = .ok next) :
    next.position = positionAfter spot.position name := by
  unfold positionAfter
  obtain ⟨children, -, ⟨hchild, -, rfl⟩ | ⟨hchild, hup, rfl⟩ | ⟨hchild, hup, rfl⟩⟩ :=
    enter_cases h
  · simp [position, hchild]
  · rw [if_neg (by simp [hchild]), if_pos hup, position_up]
  · rw [if_neg (by simp [hchild]), if_neg hup]

/-- The name of a child that is entered is not too long. -/
theorem isNameShort_of_enter (h : spot.enter name = .ok next) (hchild : isChildName name = true) :
    isNameShort name = true := by
  obtain ⟨children, -, ⟨-, hshort, -⟩ | ⟨hother, -, -⟩ | ⟨hother, -, -⟩⟩ := enter_cases h
  · exact hshort
  · simp [hchild] at hother
  · simp [hchild] at hother

/-- A directory can be entered by every name that is not too long. -/
theorem exists_enter {children : Children} (hentry : spot.entry = some (.directory children))
    (hshort : isChildName name = true → isNameShort name = true) :
    ∃ next, spot.enter name = .ok next := by
  unfold Spot.enter
  rw [hentry]
  dsimp only
  split
  · rename_i hchild
    rw [if_pos (hshort hchild)]
    exact ⟨_, rfl⟩
  · split <;> exact ⟨_, rfl⟩

/-- Moves lead to a spot of the same tree. -/
theorem IsWhole.walk {names : List String} {final : Spot} (h : spot.IsWhole)
    (hwalk : spot.walk names = .ok final) : final.IsWhole ∧ final.contents = spot.contents := by
  induction names generalizing spot with
  | nil =>
      cases hwalk
      exact ⟨h, rfl⟩
  | cons name names ih =>
      rw [Spot.walk, List.foldlM_cons] at hwalk
      rcases bind_eq_ok_iff.mp hwalk with ⟨next, henter, hwalk⟩
      obtain ⟨hnext, hcontents⟩ := h.enter henter
      rw [← hcontents]
      exact ih hnext hwalk

/-- Where directories are kept, the same names lead to the same places. -/
theorem exists_walk {names : List String} {spot spot' final : Spot}
    (hkeeps : Keeps spot.contents spot'.contents) (h : spot.IsWhole) (h' : spot'.IsWhole)
    (hposition : spot'.position = spot.position) (hwalk : spot.walk names = .ok final) :
    ∃ final', spot'.walk names = .ok final' ∧ final'.position = final.position := by
  induction names generalizing spot spot' with
  | nil =>
      cases hwalk
      exact ⟨spot', rfl, hposition⟩
  | cons name names ih =>
      rw [Spot.walk, List.foldlM_cons] at hwalk
      rcases bind_eq_ok_iff.mp hwalk with ⟨next, henter, hwalk⟩
      obtain ⟨children, hentry, -⟩ := enter_cases henter
      have hbelow := h.below?_contents
      rw [hentry] at hbelow
      obtain ⟨children', hentry'⟩ := hkeeps _ _ hbelow
      rw [← hposition, h'.below?_contents] at hentry'
      obtain ⟨next', henter'⟩ := exists_enter hentry' (isNameShort_of_enter henter)
      obtain ⟨hnext, hcontents⟩ := h.enter henter
      obtain ⟨hnext', hcontents'⟩ := h'.enter henter'
      have hplace : next'.position = next.position := by
        rw [position_of_enter henter', position_of_enter henter, hposition]
      rw [Spot.walk, List.foldlM_cons, henter', ok_bind]
      exact ih (by rw [hcontents, hcontents']; exact hkeeps) hnext hnext' hplace hwalk

/-! ## Changes -/

/-- The root around a directory is a directory. -/
theorem exists_rootEntry_eq (children : Children) (above : List (String × Children)) :
    ∃ root, rootEntry (some (.directory children)) above = some (.directory root) := by
  induction above generalizing children with
  | nil => exact ⟨children, rfl⟩
  | cons child above ih => exact ih _

/-- A change leads to a spot of a tree, unless it makes a file of the root. -/
theorem isWhole_put {entry : Entry}
    (h : spot.above = [] → ∃ children, entry = .directory children) : (spot.put entry).IsWhole := by
  refine ⟨?_, fits_some _ _⟩
  rw [contents, put]
  match habove : spot.above with
  | [] =>
      rcases h habove with ⟨children, rfl⟩
      exact ⟨children, rfl⟩
  | (name, children) :: above => exact exists_rootEntry_eq _ above

/-- A change that keeps the directories at a spot keeps all directories of the tree. -/
theorem keeps_rootEntry {old : Option Entry} {new : Entry} {above : List (String × Children)}
    (hfits : Fits old above) (h : Keeps old (some new)) :
    Keeps (rootEntry old above) (rootEntry (some new) above) := by
  induction above generalizing old new with
  | nil => exact h
  | cons child above ih =>
      -- The directory around the spot is changed in turn, and keeps what it holds.
      refine ih (fits_some _ _) (keeps_directory fun other => ?_)
      by_cases hname : child.1 = other
      · subst hname
        rw [childOf_restore fun hnone => hfits hnone child rfl,
          childOf_restore fun hnone => absurd hnone (Option.some_ne_none new)]
        exact h
      · rw [childOf_restore_of_ne hname, childOf_restore_of_ne hname]
        exact .refl _

/-- A change at a spot that keeps the directories there keeps all directories of the tree. -/
theorem IsWhole.keeps_put (h : spot.IsWhole) {entry : Entry}
    (hkeeps : Keeps spot.entry (some entry)) : Keeps spot.contents (spot.put entry).contents :=
  keeps_rootEntry h.fits hkeeps

/-- A walk along some names and then along others is one walk. -/
theorem walk_append (spot : Spot) (names more : List String) :
    spot.walk (names ++ more) = spot.walk names >>= fun next => next.walk more :=
  List.foldlM_append

/-- An empty name leads nowhere else. -/
theorem eq_of_enter_empty {next : Spot} (h : spot.enter "" = .ok next) : next = spot := by
  obtain ⟨children, -, ⟨hchild, -, -⟩ | ⟨-, hup, -⟩ | ⟨-, -, rfl⟩⟩ := enter_cases h
  · contradiction
  · contradiction
  · rfl

/-- Behind the name of a child there is no root. -/
theorem above_ne_nil_of_enter {name : String} {next : Spot} (hchild : isChildName name = true)
    (h : spot.enter name = .ok next) : next.above ≠ [] := by
  obtain ⟨children, -, ⟨-, -, rfl⟩ | ⟨hother, -, -⟩ | ⟨hother, -, -⟩⟩ := enter_cases h
  · simp
  · simp [hchild] at hother
  · simp [hchild] at hother

end Spot

/-! ## Files -/

namespace Tree

/-- A file is entered by the name of a child that is no directory. -/
theorem enterFile_eq_ok {directory spot : Spot} {name : String} {endsInSlash : Bool}
    (h : enterFile directory name endsInSlash = .ok spot) :
    endsInSlash = false ∧ Spot.isChildName name = true ∧ directory.enter name = .ok spot ∧
      ∀ children, spot.entry ≠ some (.directory children) := by
  unfold enterFile at h
  split at h
  · contradiction
  · rename_i hname
    simp only [Bool.or_eq_true, Bool.not_eq_true', not_or, Bool.not_eq_false,
      Bool.not_eq_true] at hname
    refine ⟨hname.1, hname.2, ?_⟩
    split at h
    · contradiction
    · rename_i next henter
      split at h
      · contradiction
      · rename_i hentry
        cases h
        exact ⟨henter, hentry⟩

/-- A file is written at a spot that its path leads to, which is no directory. -/
theorem exists_spot_of_writeFile {tree written : Tree} {path : String} {bytes : ByteArray}
    (h : tree.writeFile path bytes = .ok written) :
    path ≠ "" ∧ isPathShort path = true ∧ ∃ spot,
      (Spot.ofRoot tree.root).walk ((if isAbsolute path then [] else tree.start) ++ parts path) =
        .ok spot ∧
      (∀ children, spot.entry ≠ some (.directory children)) ∧ spot.above ≠ [] ∧
      written = tree.after (spot.put (.file bytes)) := by
  unfold writeFile at h
  dsimp only at h
  split at h
  · contradiction
  · rename_i hshort
    split at h
    · split at h <;> contradiction
    · rename_i name hlast
      have hpath : path ≠ "" := by
        rintro rfl
        have htrimmed : trimEmptyEnd (parts "") = [] := by decide
        rw [htrimmed] at hlast
        contradiction
      refine ⟨hpath, by simpa using hshort, ?_⟩
      rcases bind_eq_ok_iff.mp h with ⟨start, hstart, h⟩
      rcases bind_eq_ok_iff.mp h with ⟨directory, hdirectory, h⟩
      rcases bind_eq_ok_iff.mp h with ⟨spot, hspot, hwritten⟩
      cases hwritten
      obtain ⟨htrimmed, hchild, henter, hfile⟩ := enterFile_eq_ok hspot
      obtain ⟨names, hnames⟩ := List.getLast?_eq_some_iff.mp hlast
      have hsame : trimEmptyEnd (parts path) = parts path := by simpa using htrimmed
      have hparts : parts path = names ++ [name] := by rw [← hsame, hnames]
      rw [hnames, List.dropLast_concat, Spot.walk_append] at hdirectory
      rcases bind_eq_ok_iff.mp hdirectory with ⟨around, haround, hempty⟩
      rcases bind_eq_ok_iff.mp hempty with ⟨next, hnext, hdirectory⟩
      cases hdirectory
      cases Spot.eq_of_enter_empty hnext
      refine ⟨spot, ?_, hfile, Spot.above_ne_nil_of_enter hchild henter, rfl⟩
      have hstart : (Spot.ofRoot tree.root).walk (if isAbsolute path then [] else tree.start) =
          .ok start := hstart
      rw [hparts, Spot.walk_append, hstart, ok_bind, Spot.walk_append, haround, ok_bind]
      exact bind_eq_ok_iff.mpr ⟨spot, henter, rfl⟩

/-- A file that has been written is read back as it was written. -/
theorem readFile_of_writeFile {tree written : Tree} {path : String} {bytes : ByteArray}
    (h : tree.writeFile path bytes = .ok written) : written.readFile path = .ok bytes := by
  rcases exists_spot_of_writeFile h with ⟨hpath, hshort, spot, hwalk, hfile, habove, rfl⟩
  have hroot := Spot.isWhole_ofRoot tree.root
  obtain ⟨hspot, hcontents⟩ := hroot.walk hwalk
  have hput : (spot.put (.file bytes)).IsWhole :=
    Spot.isWhole_put fun hnil => absurd hnil habove
  have hkeeps := hspot.keeps_put (keeps_of_isDirectory_ne hfile (some (.file bytes)))
  rw [hcontents, hput.contents_eq] at hkeeps
  have hroot' := Spot.isWhole_ofRoot (spot.put (.file bytes)).root
  obtain ⟨found, hfound, hposition⟩ := Spot.exists_walk hkeeps hroot hroot' rfl hwalk
  have hentry : found.entry = some (.file bytes) := by
    obtain ⟨hin, hsame⟩ := hroot'.walk hfound
    rw [← hin.below?_contents, hposition, hsame]
    have hbelow := hput.below?_contents
    rw [hput.contents_eq] at hbelow
    exact hbelow
  rw [Spot.walk_append] at hfound
  have hresolve : (tree.after (spot.put (.file bytes))).resolve path = .ok found := by
    rw [resolve, if_neg hpath, if_neg (by simp [hshort])]
    rcases bind_eq_ok_iff.mp hfound with ⟨start, hstart, hfound⟩
    have horigin : (tree.after (spot.put (.file bytes))).origin path = .ok start := hstart
    rw [horigin]
    exact hfound
  rw [readFile, entryAt, hresolve]
  simp only [hentry]

end Tree

end Memberwise.Files
