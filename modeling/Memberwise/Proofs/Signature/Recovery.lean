import Memberwise.Proofs.Signature.Levels

/-!
# Argument lists of any length

A collection with an argument list stands for a type, however many slots the list has and
whatever follows the bracket that closes it.  A blank slot means {lit}`dynamic`, slots that are
too many are left out, and what follows the list can only mark the type as nullable.

Main definitions:

- {lit}`slotType`: the type that a slot stands for.
- {lit}`Collection.applied`: the type that a collection with some slots stands for.

Main results:

- Theorem {lit}`exists_stripNullMark_append`: a bracket and all in front of it stay in the base of a
  signature.
- Theorem {lit}`typeOf_collection`: which type a collection with an argument list stands for.
-/

namespace Memberwise.Signature

open Memberwise.Text Memberwise.Dart

/-! ## Behind the argument list -/

/-- A text that begins with no blank keeps all of it up to a closing bracket when it is
trimmed. -/
theorem trim_append_close {front : List Char} (hfront : ∀ c ∈ front.head?, isBlank c = false)
    (noise : List Char) :
    trim (front ++ '>' :: noise) = front ++ '>' :: trimEnd noise := by
  have hhead : ∀ c ∈ (front ++ '>' :: noise).head?, isBlank c = false := by
    cases front with
    | nil =>
        intro c hc
        cases hc
        decide
    | cons c front => exact hfront
  rw [trim, trimStart_eq_self hhead, trimEnd_append_cons (by decide)]

/-- A closing bracket and all in front of it stay in the base of a signature. -/
theorem exists_stripNullMark_append {front : List Char}
    (hfront : ∀ c ∈ front.head?, isBlank c = false) (noise : List Char) :
    ∃ kept marked, stripNullMark (front ++ '>' :: noise) = (front ++ '>' :: kept, marked) ∧
      (marked = true ↔ (trim (front ++ '>' :: noise)).getLast? = some '?') := by
  have htrim := trim_append_close hfront noise
  by_cases hlast : (trim (front ++ '>' :: noise)).getLast? = some '?'
  · rcases List.getLast?_eq_some_iff.mp hlast with ⟨text, htext⟩
    -- the mark stands behind the bracket, since the bracket is no mark
    obtain ⟨tail, htail⟩ : ∃ tail, trimEnd noise = tail ++ ['?'] := by
      rw [htrim] at hlast
      cases hnoise : trimEnd noise with
      | nil => simp [hnoise] at hlast
      | cons c rest =>
          rw [hnoise, List.getLast?_append_of_ne_nil _ (by simp), List.getLast?_cons_cons] at hlast
          exact List.getLast?_eq_some_iff.mp hlast
    have hfrontEq : text = front ++ '>' :: tail := by
      rw [htrim, htail, ← List.cons_append, ← List.append_assoc] at htext
      exact (List.append_cancel_right htext).symm
    refine ⟨trimEnd tail, true, ?_, by simp [hlast]⟩
    rw [stripNullMark_of_trim_eq_concat htext, hfrontEq, trimEnd_append_cons (by decide)]
  · refine ⟨trimEnd noise, false, ?_, by simp [hlast]⟩
    rw [stripNullMark_of_getLast?_ne hlast, htrim]

/-! ## Slots -/

/-- The type that a slot stands for. -/
def slotType (slot : String) : DartType :=
  if AllBlank slot.toList then .scalar .dynamic false else typeOf slot

/-- A slot stands for its type. -/
theorem type_ofSlot (slot : String) :
    (Argument.ofSlot (trim slot.toList)).type = slotType slot := by
  unfold slotType
  split
  · rename_i hblank
    rw [trim_eq_nil_iff.mpr hblank]
    rfl
  · rename_i hblank
    exact type_ofSlot_trim (mt trim_eq_nil_iff.mp hblank)

/-- The two kinds of type that have an argument list. -/
inductive Collection where
  | list
  | map
deriving DecidableEq, Repr

namespace Collection

/-- The name in front of an argument list. -/
def name : Collection → String
  | list => "List"
  | map => "Map"

/-- The type that a collection with some slots stands for.  A list has its first slot as its
element.  A map has its first two slots as its key and its value, or the only one as its value;
its keys are strings then. -/
def applied (first : String) (others : List String) (nullable : Bool) : Collection → DartType
  | list => .list (slotType first) nullable
  | map =>
      match others with
      | [] => .map (.scalar .string false) (slotType first) nullable
      | second :: _ => .map (slotType first) (slotType second) nullable

/-- The text of a collection with some slots, and of whatever follows its argument list. -/
def spelled (collection : Collection) (slots : List String) (noise : String) : String :=
  collection.name ++ "<" ++ ",".intercalate slots ++ ">" ++ noise

end Collection

/-- The argument list of a collection is cut into its slots. -/
theorem type_shape_collection (collection : Collection) {first : String} {others : List String}
    (h : ∀ slot ∈ first :: others, IsBalanced slot.toList) (kept : List Char)
    (nullable : Bool) :
    Level.type ⟨shape (collection.name.toList ++ '<' ::
        ([','].intercalate ((first :: others).map String.toList) ++ '>' :: kept)), nullable⟩ =
      collection.applied first others nullable := by
  have hdepth : ∀ slot ∈ first.toList :: others.map String.toList, depthAfter 0 slot = some 0 := by
    rw [← List.map_cons, List.forall_mem_map]
    exact fun slot hslot => depthAfter_eq_zero_iff.mpr (h slot hslot)
  have hslots := slots_intercalate hdepth kept
  rw [← List.map_cons] at hslots
  cases collection with
  | list =>
      have hshape := shape_list allBlank_nil
        ([','].intercalate ((first :: others).map String.toList) ++ '>' :: kept)
      rw [hslots, List.append_nil] at hshape
      rw [show Collection.list.name.toList = listName by decide, hshape, Level.type, type_ofSlot]
      rfl
  | map =>
      rw [show Collection.map.name.toList = mapName by decide]
      cases others with
      | nil =>
          have hshape := shape_map_of_single allBlank_nil (congrArg Slots.others hslots)
          rw [hslots, List.append_nil] at hshape
          rw [hshape, Level.type, type_ofSlot]
          rfl
      | cons second others =>
          have hshape := shape_map allBlank_nil (congrArg Slots.others hslots)
          rw [hslots, List.append_nil] at hshape
          rw [hshape, Level.type, type_ofSlot, type_ofSlot]
          rfl

/-- A collection with a closed argument list stands for the type that its first slots make up,
whatever the other slots are and whatever follows the list.  Only whether the type is nullable
depends on that: it is exactly if the text, trimmed, ends in a question mark. -/
theorem typeOf_collection (collection : Collection) {first : String} {others : List String}
    (h : ∀ slot ∈ first :: others, IsBalanced slot.toList) (noise : String) :
    let text := collection.spelled (first :: others) noise
    ∃ nullable, typeOf text = collection.applied first others nullable ∧
      (nullable = true ↔ (trim text.toList).getLast? = some '?') := by
  intro text
  let front := collection.name.toList ++
    '<' :: [','].intercalate ((first :: others).map String.toList)
  have htext : text.toList = front ++ '>' :: noise.toList := by
    simp [text, front, Collection.spelled, String.toList_intercalate]
  have hfront : ∀ c ∈ front.head?, isBlank c = false := by
    cases collection <;> (intro c hc; cases hc; decide)
  rcases exists_stripNullMark_append hfront noise.toList with ⟨kept, nullable, hstrip, hmark⟩
  refine ⟨nullable, ?_, by rw [htext]; exact hmark⟩
  rw [typeOf, read_eq, htext, hstrip, ← type_shape_collection collection h kept nullable]
  simp [front]

/-- A key with type arguments of its own, a blank value, a slot too many, and a bracket, a comma
and a null mark behind the list. -/
theorem typeOf_collection_pair :
    let slots := [" Pair<A, B>?", "\t", "List<int>"]
    let text := Collection.map.spelled slots ">, <x ? "
    (∀ slot ∈ slots, IsBalanced slot.toList) ∧
      typeOf text = .map (.model "Pair<A, B>" true) (.scalar .dynamic false) true := by
  intro slots text
  have hslots : ∀ slot ∈ slots, IsBalanced slot.toList := by
    intro slot hslot
    have hdepths : ∀ slot ∈ slots, depthAfter 0 slot.toList = some 0 := by decide
    exact depthAfter_eq_zero_iff.mp (hdepths slot hslot)
  refine ⟨hslots, ?_⟩
  rcases typeOf_collection .map hslots ">, <x ? " with ⟨nullable, htype, hmark⟩
  have hnullable : nullable = true := hmark.mpr (by decide)
  have hkey : slotType " Pair<A, B>?" = .model "Pair<A, B>" true := by decide +kernel
  have hvalue : slotType "\t" = .scalar .dynamic false := by decide +kernel
  rw [htype, Collection.applied, hkey, hvalue, hnullable]

end Memberwise.Signature
