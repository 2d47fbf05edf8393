import Memberwise.Text.Blank

/-!
# Type arguments of a signature

The part of a type signature between its first opening bracket and the bracket
that closes it, cut at the commas outside any inner brackets.  An argument list
that is never closed runs to the end of the signature, and whatever follows the
closing bracket is ignored.

Main results:

- Theorem {lit}`length_slot_le`: no slot is longer than the text it was cut from.
- Theorem {lit}`length_argument_lt`: every argument is shorter than its
  signature.
-/

namespace Memberwise.Signature

open Memberwise.Text

/-! ## Raw slots -/

/-- The pieces of an argument list; there is always a first one. -/
structure Slots where
  first : List Char
  others : List (List Char)
deriving DecidableEq, Repr

namespace Slots

/-- All slots in order. -/
def toList (slots : Slots) : List (List Char) :=
  slots.first :: slots.others

/-- Puts a character in front of the first slot. -/
def push (c : Char) (slots : Slots) : Slots :=
  { slots with first := c :: slots.first }

/-- Puts an empty slot in front of all others. -/
def cut (slots : Slots) : Slots :=
  { first := [], others := slots.toList }

end Slots

/-- Cuts an argument list at its own commas.  The number counts the brackets that
are open inside the list; the text starts right after the list's opening
bracket. -/
def slots : Nat → List Char → Slots
  | _, [] => ⟨[], []⟩
  | depth, '<' :: rest => (slots (depth + 1) rest).push '<'
  | 0, '>' :: _ => ⟨[], []⟩
  | depth + 1, '>' :: rest => (slots depth rest).push '>'
  | 0, ',' :: rest => (slots 0 rest).cut
  | depth, c :: rest => (slots depth rest).push c

/-- No slot is longer than the text it was cut from. -/
theorem length_slot_le (depth : Nat) (text : List Char) :
    ∀ slot ∈ (slots depth text).toList, slot.length ≤ text.length := by
  fun_induction slots depth text <;>
    simp_all [Slots.toList, Slots.push, Slots.cut] <;> grind

/-! ## Head and arguments -/

/-- A signature cut into the text before its first bracket and the raw slots of
its argument list, if it has one. -/
structure Application where
  head : List Char
  slots : Option Slots
deriving DecidableEq, Repr

/-- Cuts a signature at its first opening bracket. -/
def application (base : List Char) : Application :=
  match base.dropWhile (· != '<') with
  | [] => ⟨base, none⟩
  | _ :: inner => ⟨trim (base.takeWhile (· != '<')), some (slots 0 inner)⟩

/-- The arguments of a signature, trimmed; none for a signature without an
argument list. -/
def arguments (base : List Char) : List (List Char) :=
  match (application base).slots with
  | none => []
  | some slots => slots.toList.map trim

/-- Every argument is shorter than its signature. -/
theorem length_argument_lt {base argument : List Char}
    (h : argument ∈ arguments base) : argument.length < base.length := by
  unfold arguments application at h
  have hdrop := (List.dropWhile_sublist (· != '<') (l := base)).length_le
  cases hinner : base.dropWhile (· != '<') with
  | nil => simp [hinner] at h
  | cons open_ inner =>
      simp only [hinner, List.mem_map] at h
      obtain ⟨slot, hslot, rfl⟩ := h
      have hslotLe := length_slot_le 0 inner slot hslot
      have htrim := length_trim_le slot
      simp only [hinner, List.length_cons] at hdrop
      omega

end Memberwise.Signature
