import Mathlib.Data.List.TakeWhile
import Memberwise.Proofs.Files.Writing

/-!
# Places on the way of a file

A path leads through places of a tree.  Whether a file can be written by its path, and why not,
depends on nothing but the kinds of what stands at these places: on directories that are there
or missing, and on files in the way.  Two trees in which these kinds are the same are followed
step by step, while directories are made in both.

Main definitions:

- {lit}`kindBelow`: the kind of what stands at a place.
- {lit}`AddsDirectory`: what changes if a directory is made.
- {lit}`Tree.way` and {lit}`Tree.place`: the places that a path leads through, and where it ends.
- {lit}`Tree.SameWay`: whether the way of a path is the same in two trees.

Main results:

- Theorem {lit}`Spot.IsWhole.addsDirectory_put`: a directory that is made changes one place only.
- Theorems {lit}`Spot.SameWay.walk` and {lit}`Spot.SameWay.makeDirectories`: along the same way
  the same happens in two trees.
- Theorem {lit}`mem_scanl_of_mem_scanl_parentSteps`: the directories that are made for a file are
  on its way.
- Theorems {lit}`Tree.SameWay.makeParents` and {lit}`Tree.SameWay.writeFile`: so a file is written
  in both, or in neither for the same reason.
-/

namespace Memberwise.Files

/-! ## Kinds of entries -/

/-- The kind of what stands below an entry under some names: whether it is a directory, if
anything stands there. -/
def kindBelow (entry : Option Entry) (names : List String) : Option Bool :=
  (below? entry names).map Entry.isDirectory

/-- What is of the kind of a directory is a directory. -/
theorem isDirectory_eq_some_true_iff {entry : Option Entry} :
    entry.map Entry.isDirectory = some true ↔ ∃ children, entry = some (.directory children) := by
  match entry with
  | none => simp
  | some (.file bytes) => simp [Entry.isDirectory]
  | some (.directory children) => simp [Entry.isDirectory]

/-- Two entries of the same kind are both missing, both files or both directories. -/
theorem kind_cases {entry entry' : Option Entry}
    (h : entry'.map Entry.isDirectory = entry.map Entry.isDirectory) :
    (entry = none ∧ entry' = none) ∨
      (∃ bytes bytes', entry = some (.file bytes) ∧ entry' = some (.file bytes')) ∨
      ∃ children children', entry = some (.directory children) ∧
        entry' = some (.directory children') := by
  match entry, entry' with
  | none, none => exact .inl ⟨rfl, rfl⟩
  | some (.file bytes), some (.file bytes') => exact .inr (.inl ⟨bytes, bytes', rfl, rfl⟩)
  | some (.directory children), some (.directory children') =>
      exact .inr (.inr ⟨children, children', rfl, rfl⟩)
  | none, some _ => simp at h
  | some _, none => simp at h
  | some (.file _), some (.directory _) => simp [Entry.isDirectory] at h
  | some (.directory _), some (.file _) => simp [Entry.isDirectory] at h

/-- Whether an entry differs from another in nothing but a directory under some names. -/
def AddsDirectory (names : List String) (old new : Option Entry) : Prop :=
  ∀ others, kindBelow new others = if others = names then some true else kindBelow old others

/-- An empty directory differs from nothing in itself only. -/
theorem addsDirectory_nil : AddsDirectory [] none (some (.directory [])) := by
  intro names
  cases names with
  | nil => rfl
  | cons name names => simp [kindBelow, below?, childOf]

/-- A directory differs from another in what a child differs in. -/
theorem addsDirectory_cons {name : String} {names : List String} {children children' : Children}
    (h : AddsDirectory names (childOf name children) (childOf name children'))
    (hothers : ∀ other, name ≠ other → childOf other children' = childOf other children) :
    AddsDirectory (name :: names) (some (.directory children)) (some (.directory children')) := by
  intro others
  cases others with
  | nil => simp [kindBelow, below?, Entry.isDirectory]
  | cons other others =>
      change kindBelow (childOf other children') others = _
      by_cases hname : name = other
      · subst hname
        simpa [kindBelow, below?] using h others
      · rw [hothers other hname, if_neg (by simp [Ne.symm hname])]
        rfl

namespace Spot

/-- A directory that is made where nothing is adds one to the tree. -/
theorem addsDirectory_rootEntry {old : Option Entry} {new : Entry} {names : List String}
    {above : List (String × Children)} (hfits : Fits old above)
    (h : AddsDirectory names old (some new)) :
    AddsDirectory ((above.map Prod.fst).reverse ++ names) (rootEntry old above)
      (rootEntry (some new) above) := by
  induction above generalizing old new names with
  | nil => exact h
  | cons child above ih =>
      rw [List.map_cons, List.reverse_cons, List.append_assoc]
      refine ih (fits_some _ _) (addsDirectory_cons ?_ fun other hname => ?_)
      · rw [childOf_restore fun hnone => hfits hnone child rfl,
          childOf_restore fun hnone => absurd hnone (Option.some_ne_none new)]
        exact h
      · rw [childOf_restore_of_ne hname, childOf_restore_of_ne hname]

variable {spot spot' : Spot}

/-- The kind of what stands at a spot is found in the tree at its place. -/
theorem IsWhole.kindBelow_position (h : spot.IsWhole) :
    kindBelow spot.contents spot.position = spot.entry.map Entry.isDirectory := by
  rw [kindBelow, h.below?_contents]

/-- A directory that is made where nothing is adds one to the tree at this place. -/
theorem IsWhole.addsDirectory_put (h : spot.IsWhole) (hentry : spot.entry = none) :
    AddsDirectory spot.position spot.contents (spot.put (.directory [])).contents := by
  have hnil : AddsDirectory [] spot.entry (some (.directory [])) := by
    rw [hentry]
    exact addsDirectory_nil
  have hadds := addsDirectory_rootEntry h.fits hnil
  rw [List.append_nil] at hadds
  exact hadds

/-! ## Moves along the same way -/

/-- Whether two spots are at the same place of two trees, in which entries of the same kinds stand
at some places, and a directory at one last place in both or in neither. -/
structure SameWay (places : List (List String)) (last : List String) (spot spot' : Spot) :
    Prop where
  whole : spot.IsWhole
  whole' : spot'.IsWhole
  position_eq : spot'.position = spot.position
  kind_eq : ∀ place ∈ places, kindBelow spot'.contents place = kindBelow spot.contents place
  last_iff : kindBelow spot'.contents last = some true ↔ kindBelow spot.contents last = some true

variable {places : List (List String)} {last : List String}

/-- Entries of the same kind stand at both spots. -/
theorem SameWay.entry_kind_eq (h : SameWay places last spot spot')
    (hplace : spot.position ∈ places) :
    spot'.entry.map Entry.isDirectory = spot.entry.map Entry.isDirectory := by
  have hkind := h.kind_eq _ hplace
  rw [h.whole.kindBelow_position, ← h.position_eq, h.whole'.kindBelow_position] at hkind
  exact hkind

/-- Why a name can not be entered depends on the kind of what stands at a spot only. -/
theorem enter_eq_error_of_kind {name : String} {error : FileError}
    (hkind : spot'.entry.map Entry.isDirectory = spot.entry.map Entry.isDirectory)
    (h : spot.enter name = .error error) : spot'.enter name = .error error := by
  unfold Spot.enter at h ⊢
  obtain ⟨hentry, hentry'⟩ | ⟨bytes, bytes', hentry, hentry'⟩ |
    ⟨children, children', hentry, hentry'⟩ := kind_cases hkind
  · rw [hentry] at h
    rw [hentry']
    exact h
  · rw [hentry] at h
    rw [hentry']
    exact h
  · rw [hentry] at h
    rw [hentry']
    dsimp only at h ⊢
    split at h
    · rename_i hchild
      split at h
      · contradiction
      · rename_i hshort
        rw [if_pos hchild, if_neg hshort]
        exact h
    · split at h <;> contradiction

/-- A name leads on along the same way in both trees, or in neither for the same reason. -/
theorem SameWay.enter (h : SameWay places last spot spot') (hplace : spot.position ∈ places)
    (name : String) :
    Corresponds
      (fun next next' => SameWay places last next next' ∧
        next.position = positionAfter spot.position name)
      (spot.enter name) (spot'.enter name) := by
  have hkind := h.entry_kind_eq hplace
  cases henter : spot.enter name with
  | ok next =>
      obtain ⟨children, hentry, -⟩ := enter_cases henter
      rw [hentry] at hkind
      obtain ⟨children', hentry'⟩ := isDirectory_eq_some_true_iff.mp hkind
      obtain ⟨next', henter'⟩ := exists_enter hentry' (isNameShort_of_enter henter)
      obtain ⟨hnext, hcontents⟩ := h.whole.enter henter
      obtain ⟨hnext', hcontents'⟩ := h.whole'.enter henter'
      have hposition := position_of_enter henter
      rw [henter']
      refine .ok ⟨⟨hnext, hnext', ?_, ?_, ?_⟩, hposition⟩
      · rw [hposition, position_of_enter henter', h.position_eq]
      · rw [hcontents, hcontents']
        exact h.kind_eq
      · rw [hcontents, hcontents']
        exact h.last_iff
  | error error =>
      rw [enter_eq_error_of_kind hkind henter]
      exact .error error

/-- Names lead on along the same way in both trees, or in neither for the same reason. -/
theorem SameWay.walk {names : List String} (h : SameWay places last spot spot')
    (hplaces : ∀ place ∈ names.scanl positionAfter spot.position, place ∈ places) :
    Corresponds
      (fun final final' => SameWay places last final final' ∧
        final.position = names.foldl positionAfter spot.position)
      (spot.walk names) (spot'.walk names) := by
  induction names generalizing spot spot' with
  | nil => exact .ok ⟨h, rfl⟩
  | cons name names ih =>
      rw [List.scanl_cons, List.forall_mem_cons] at hplaces
      rw [Spot.walk, Spot.walk, List.foldlM_cons, List.foldlM_cons]
      refine (h.enter hplaces.1 name).bind ?_
      rintro next next' ⟨hnext, hposition⟩
      rw [List.foldl_cons, ← hposition]
      exact ih hnext (by rw [hposition]; exact hplaces.2)

/-- A directory that is made in both trees leads to the same place in both. -/
theorem SameWay.put (h : SameWay places last spot spot') (hentry : spot.entry = none)
    (hentry' : spot'.entry = none) :
    SameWay places last (spot.put (.directory [])) (spot'.put (.directory [])) := by
  have hadds := h.whole.addsDirectory_put hentry
  have hadds' := h.whole'.addsDirectory_put hentry'
  rw [h.position_eq] at hadds'
  refine ⟨isWhole_put fun _ => ⟨_, rfl⟩, isWhole_put fun _ => ⟨_, rfl⟩, h.position_eq, ?_, ?_⟩
  · intro place hplace
    rw [hadds, hadds', h.kind_eq place hplace]
  · rw [hadds, hadds']
    split
    · rfl
    · exact h.last_iff

/-- Where the way is the same the same directories are made. -/
theorem SameWay.makeDirectories {names : List String} (h : SameWay places last spot spot')
    (hplaces : ∀ place ∈ names.scanl positionAfter spot.position, place ∈ places)
    (isNew : Bool) :
    (spot'.makeDirectories isNew names).2 = (spot.makeDirectories isNew names).2 ∧
      SameWay places last (spot.makeDirectories isNew names).1
        (spot'.makeDirectories isNew names).1 := by
  induction names generalizing spot spot' isNew with
  | nil => exact ⟨rfl, h⟩
  | cons name names ih =>
      rw [List.scanl_cons, List.forall_mem_cons] at hplaces
      have henter := h.enter hplaces.1 name
      simp only [Spot.makeDirectories]
      generalize spot.enter name = moved, spot'.enter name = moved' at henter ⊢
      cases henter with
      | error error => exact ⟨rfl, h⟩
      | @ok next next' hboth =>
          obtain ⟨hnext, hposition⟩ := hboth
          rw [← hposition] at hplaces
          have hplace : next.position ∈ places := by
            apply hplaces.2
            cases names <;> simp
          have hkind := hnext.entry_kind_eq hplace
          dsimp only
          obtain ⟨hentry, hentry'⟩ | ⟨bytes, bytes', hentry, hentry'⟩ |
            ⟨children, children', hentry, hentry'⟩ := kind_cases hkind
          · rw [hentry, hentry']
            exact ih (hnext.put hentry hentry') hplaces.2 true
          · rw [hentry, hentry']
            exact ⟨rfl, h⟩
          · rw [hentry, hentry']
            exact ih hnext hplaces.2 isNew

end Spot

/-! ## Ways of paths -/

section Scans

variable {σ α : Type} {f : σ → α → σ} {start state : σ}

/-- A scan goes through its start. -/
theorem mem_scanl_self (f : σ → α → σ) (start : σ) (list : List α) :
    start ∈ list.scanl f start := by
  cases list <;> simp

/-- A scan in two parts goes through what either part goes through. -/
theorem mem_scanl_append_iff {list more : List α} :
    state ∈ (list ++ more).scanl f start ↔
      state ∈ list.scanl f start ∨ state ∈ more.scanl f (list.foldl f start) := by
  induction list generalizing start with
  | nil =>
      have hself := mem_scanl_self f start more
      simp only [List.nil_append, List.scanl_nil, List.mem_singleton, List.foldl_nil]
      constructor
      · exact .inr
      · rintro (rfl | h)
        · exact hself
        · exact h
  | cons a list ih => simp [ih, or_assoc]

/-- A scan goes through its end. -/
theorem foldl_mem_scanl (f : σ → α → σ) (start : σ) (list : List α) :
    list.foldl f start ∈ list.scanl f start := by
  have hend := @mem_scanl_append_iff σ α f start (list.foldl f start) list []
  rw [List.append_nil] at hend
  exact hend.mpr (.inr (mem_scanl_self _ _ _))

end Scans

/-- A name is left out at the end only if all names behind it are. -/
theorem trimEmptyEnd_cons {name : String} {names : List String} (h : trimEmptyEnd names ≠ []) :
    trimEmptyEnd (name :: names) = name :: trimEmptyEnd names := by
  unfold trimEmptyEnd at h ⊢
  rw [List.reverse_cons, List.dropWhile_append, if_neg (by simpa using h)]
  simp

/-- A name that is neither empty nor a dot, which are the names that lead nowhere else. -/
def isStep (name : String) : Bool :=
  name ≠ "" ∧ name ≠ "."

/-- Names that are no steps lead nowhere else. -/
theorem positionAfter_of_isStep_false {name : String} (h : isStep name = false)
    (position : List String) : Spot.positionAfter position name = position := by
  by_cases hempty : name = ""
  · rw [hempty]
    rfl
  · have hdot : name = "." := by simpa [isStep, hempty] using h
    rw [hdot]
    rfl

/-- Where there is a step there is a name that is not left out at the end. -/
theorem trimEmptyEnd_ne_nil {names : List String} (h : names.filter isStep ≠ []) :
    trimEmptyEnd names ≠ [] := by
  intro htrim
  refine h (List.filter_eq_nil_iff.mpr fun name hname hstep => ?_)
  simp only [trimEmptyEnd, List.reverse_eq_nil_iff, List.dropWhile_eq_nil_iff,
    List.mem_reverse, decide_eq_true_eq] at htrim
  rw [htrim name hname] at hstep
  contradiction

/-- The steps lead through no other places than all names do. -/
theorem mem_scanl_of_mem_scanl_filter {names : List String} {position place : List String}
    (h : place ∈ (names.filter isStep).dropLast.scanl Spot.positionAfter position) :
    place ∈ (trimEmptyEnd names).dropLast.scanl Spot.positionAfter position := by
  induction names generalizing position with
  | nil => exact h
  | cons name names ih =>
      by_cases hfilter : names.filter isStep = []
      · have hlast : ((name :: names).filter isStep).dropLast = [] := by
          rw [List.filter_cons, hfilter]
          split <;> rfl
        rw [hlast, List.scanl_nil, List.mem_singleton] at h
        rw [h]
        exact mem_scanl_self _ _ _
      · have htrim := trimEmptyEnd_ne_nil hfilter
        rw [trimEmptyEnd_cons htrim, List.dropLast_cons_of_ne_nil htrim, List.scanl_cons]
        cases hstep : isStep name with
        | true =>
            rw [List.filter_cons_of_pos hstep, List.dropLast_cons_of_ne_nil hfilter,
              List.scanl_cons] at h
            rcases List.mem_cons.mp h with rfl | h
            · exact List.mem_cons_self
            · exact List.mem_cons_of_mem _ (ih h)
        | false =>
            rw [List.filter_cons_of_neg (by simp [hstep])] at h
            rw [positionAfter_of_isStep_false hstep]
            exact List.mem_cons_of_mem _ (ih h)

/-- The steps to the directory that holds a file lead through places on the way of the file. -/
theorem mem_scanl_of_mem_scanl_parentSteps {path : String} {position place : List String}
    (h : place ∈ (parentSteps path).scanl Spot.positionAfter position) :
    place ∈ (trimEmptyEnd (parts path)).dropLast.scanl Spot.positionAfter position := by
  unfold parentSteps steps at h
  split at h
  · rename_i hparts
    rw [hparts]
    exact h
  · rename_i first rest hparts
    rw [hparts]
    have hrest : (rest.filter fun part => part ≠ "" ∧ part ≠ ".") = rest.filter isStep := rfl
    dsimp only at h
    rw [hrest] at h
    cases hstep : isStep first with
    | true =>
        apply mem_scanl_of_mem_scanl_filter
        rw [List.filter_cons_of_pos hstep]
        rw [if_neg (by rintro rfl; contradiction)] at h
        exact h
    | false =>
        -- A dot at the start is kept as a step, but leads nowhere else.
        have hkept : place ∈ ((first :: rest).filter isStep).dropLast.scanl Spot.positionAfter
            position := by
          rw [List.filter_cons_of_neg (by simp [hstep])]
          split at h
          · exact h
          · cases hfilter : rest.filter isStep with
            | nil =>
                rw [hfilter] at h
                exact h
            | cons second others =>
                rw [hfilter, List.dropLast_cons_of_ne_nil (List.cons_ne_nil _ _), List.scanl_cons,
                  positionAfter_of_isStep_false hstep] at h
                rcases List.mem_cons.mp h with rfl | h
                · exact mem_scanl_self _ _ _
                · exact h
        exact mem_scanl_of_mem_scanl_filter hkept

/-- An empty name at the end leads nowhere else. -/
theorem foldl_concat_empty (names : List String) (position : List String) :
    (names ++ [""]).foldl Spot.positionAfter position =
      names.foldl Spot.positionAfter position := by
  rw [List.foldl_append]
  rfl

/-- An empty name at the end leads through no other places. -/
theorem mem_scanl_of_mem_scanl_concat {names : List String} {position place : List String}
    (h : place ∈ (names ++ [""]).scanl Spot.positionAfter position) :
    place ∈ names.scanl Spot.positionAfter position := by
  rcases mem_scanl_append_iff.mp h with h | h
  · exact h
  · have hend : place = names.foldl Spot.positionAfter position := by
      simpa [Spot.positionAfter, Spot.isChildName] using h
    rw [hend]
    exact foldl_mem_scanl _ _ _

/-! ## Files on their ways -/

namespace Tree

/-- The names that lead to where a path starts. -/
def startOf (tree : Tree) (path : String) : List String :=
  if isAbsolute path then [] else tree.start

/-- The places that the path of a file leads through, up to the directory that holds the file. -/
def way (tree : Tree) (path : String) : List (List String) :=
  (tree.startOf path ++ (trimEmptyEnd (parts path)).dropLast).scanl Spot.positionAfter []

/-- The place of a file. -/
def place (tree : Tree) (path : String) : List String :=
  (tree.startOf path ++ trimEmptyEnd (parts path)).foldl Spot.positionAfter []

/-- The kind of what stands at a place. -/
def kindAt (tree : Tree) (place : List String) : Option Bool :=
  kindBelow (some (.directory tree.root)) place

/-- Whether the way of a file is the same in two trees: entries of the same kinds stand at all
places up to the directory that holds the file, and if a directory stands at its own place, then
in both. -/
structure SameWay (tree tree' : Tree) (path : String) : Prop where
  start_eq : tree'.start = tree.start
  kind_eq : ∀ place ∈ tree.way path, tree'.kindAt place = tree.kindAt place
  last_iff : tree'.kindAt (tree.place path) = some true ↔ tree.kindAt (tree.place path) = some true

variable {tree tree' : Tree} {path : String}

/-- A path starts at the same place in both trees, or in neither for the same reason. -/
theorem SameWay.origin (h : tree.SameWay tree' path) :
    Corresponds
      (fun spot spot' => Spot.SameWay (tree.way path) (tree.place path) spot spot' ∧
        spot.position = (tree.startOf path).foldl Spot.positionAfter [])
      (tree.origin path) (tree'.origin path) := by
  have hroot : Spot.SameWay (tree.way path) (tree.place path) (.ofRoot tree.root)
      (.ofRoot tree'.root) :=
    { whole := Spot.isWhole_ofRoot tree.root
      whole' := Spot.isWhole_ofRoot tree'.root
      position_eq := rfl
      kind_eq := h.kind_eq
      last_iff := h.last_iff }
  have horigin : tree'.origin path = (Spot.ofRoot tree'.root).walk (tree.startOf path) := by
    rw [Tree.origin, h.start_eq]
    rfl
  rw [horigin]
  refine hroot.walk ?_
  intro place hplace
  exact mem_scanl_append_iff.mpr (.inl hplace)

/-- From where a path starts it leads through places on its way. -/
theorem mem_way_of_mem_scanl {position place : List String}
    (hposition : position = (tree.startOf path).foldl Spot.positionAfter [])
    (h : place ∈ (trimEmptyEnd (parts path)).dropLast.scanl Spot.positionAfter position) :
    place ∈ tree.way path := by
  rw [hposition] at h
  exact mem_scanl_append_iff.mpr (.inr h)

/-- The way stays the same if changes leave it so. -/
theorem SameWay.after (h : tree.SameWay tree' path) {spot spot' : Spot}
    (hspot : Spot.SameWay (tree.way path) (tree.place path) spot spot') :
    (tree.after spot).SameWay (tree'.after spot') path := by
  have hkind := hspot.kind_eq
  have hlast := hspot.last_iff
  rw [hspot.whole.contents_eq, hspot.whole'.contents_eq] at hkind hlast
  exact ⟨h.start_eq, hkind, hlast⟩

/-- The directories on the same way of a file are made in both trees, or are not for the same
reason, and the way stays the same. -/
theorem SameWay.makeParents (h : tree.SameWay tree' path) :
    (tree'.makeParents path).2 = (tree.makeParents path).2 ∧
      (tree.makeParents path).1.SameWay (tree'.makeParents path).1 path := by
  have horigin := h.origin
  unfold Tree.makeParents
  split
  · exact ⟨rfl, h⟩
  · generalize tree.origin path = start, tree'.origin path = start' at horigin ⊢
    cases horigin with
    | error error => exact ⟨rfl, h⟩
    | @ok spot spot' hboth =>
        obtain ⟨hspot, hposition⟩ := hboth
        have hplaces : ∀ place ∈ (parentSteps path).scanl Spot.positionAfter spot.position,
            place ∈ tree.way path := by
          intro place hplace
          exact mem_way_of_mem_scanl hposition (mem_scanl_of_mem_scanl_parentSteps hplace)
        obtain ⟨hresult, hmade⟩ := hspot.makeDirectories hplaces false
        exact ⟨hresult, h.after hmade⟩

/-- A file is entered in both of two directories at the same place, or in neither for the same
reason, if a directory stands in its place in both or in neither. -/
theorem enterFile_corresponds {places : List (List String)} {last : List String}
    {directory directory' : Spot} {name : String}
    (h : Spot.SameWay places last directory directory') (hplace : directory.position ∈ places)
    (hlast : last = Spot.positionAfter directory.position name) (endsInSlash : Bool) :
    Corresponds (fun _ _ => True) (enterFile directory name endsInSlash)
      (enterFile directory' name endsInSlash) := by
  unfold enterFile
  split
  · exact .error _
  · have henter := h.enter hplace name
    generalize directory.enter name = entered, directory'.enter name = entered' at henter ⊢
    cases henter with
    | error error => exact .error _
    | @ok spot spot' hboth =>
        obtain ⟨hspot, hposition⟩ := hboth
        rw [← hposition] at hlast
        have hiff := hspot.last_iff
        rw [hlast, hspot.whole.kindBelow_position, ← hspot.position_eq,
          hspot.whole'.kindBelow_position, isDirectory_eq_some_true_iff,
          isDirectory_eq_some_true_iff] at hiff
        dsimp only
        split
        · rename_i children hentry
          rcases hiff.mpr ⟨children, hentry⟩ with ⟨children', hentry'⟩
          rw [hentry']
          exact .error _
        · rename_i hfile
          split
          · rename_i children' hentry'
            rcases hiff.mp ⟨children', hentry'⟩ with ⟨children, hentry⟩
            exact absurd hentry (hfile children)
          · exact .ok trivial

/-- Where the way is the same a file is written in both trees, or in neither for the same
reason. -/
theorem SameWay.writeFile (h : tree.SameWay tree' path) (bytes : ByteArray) :
    Corresponds (fun _ _ => True) (tree.writeFile path bytes) (tree'.writeFile path bytes) := by
  unfold Tree.writeFile
  dsimp only
  split
  · exact .error _
  · split
    · split <;> exact .error _
    · rename_i name hlast
      obtain ⟨names, hnames⟩ := List.getLast?_eq_some_iff.mp hlast
      have hway := @mem_way_of_mem_scanl tree path
      rw [hnames, List.dropLast_concat] at hway ⊢
      refine h.origin.bind ?_
      rintro start start' ⟨hstart, hposition⟩
      have hplaces : ∀ place ∈ (names ++ [""]).scanl Spot.positionAfter start.position,
          place ∈ tree.way path :=
        fun _ hplace => hway hposition (mem_scanl_of_mem_scanl_concat hplace)
      refine (hstart.walk hplaces).bind ?_
      rintro directory directory' ⟨hdirectory, hend⟩
      rw [foldl_concat_empty] at hend
      refine (enterFile_corresponds hdirectory ?_ ?_ _).bind fun _ _ _ => .ok trivial
      · rw [hend]
        exact hway hposition (foldl_mem_scanl _ _ _)
      · rw [hend, hposition, place, hnames, ← List.append_assoc, List.foldl_append,
          List.foldl_append]
        rfl

end Tree

end Memberwise.Files
