import Memberwise.Proofs.Signature.Stability

/-!
# What the slots of an argument list are

An argument list is cut into slots whether or not its brackets match.  The cutting loses
nothing: the slots with commas between them are the text up to the bracket that closes the list,
or all of it where no bracket does.  Every slot keeps its commas inside its own brackets, and only
the last one can leave a bracket open.

Main definitions:

- {lit}`argumentTexts`: the texts of the arguments of a signature.
- {lit}`IsInside`: whether a text is what a bracket encloses.
- {lit}`IsArgumentText`: what is true of every argument text.

Main results:

- Theorem {lit}`isInside_joined_slots`: the slots are what the bracket of the list encloses.
- Theorem {lit}`depthAfter_of_mem_dropLast_slots`: every slot but the last closes its brackets.
- Theorem {lit}`argumentTexts_partition`: what is true of the arguments of every signature.
-/

namespace Memberwise.Signature

open Memberwise.Text

/-! ## What a bracket encloses -/

/-- Whether no prefix of a text closes more brackets than were open before it and in it. -/
def ClosesAtMost (depth : Nat) (text : List Char) : Prop :=
  ∀ before, before <+: text → before.count '>' ≤ depth + before.count '<'

/-- Whether a text is the front of another one up to the bracket that closes one more than were
open before, or all of it where no bracket does. -/
inductive IsInside (depth : Nat) : List Char → List Char → Prop where
  | closed {inside after : List Char} (hcount : inside.count '>' = depth + inside.count '<')
      (hcloses : ClosesAtMost depth inside) : IsInside depth (inside ++ '>' :: after) inside
  | unclosed {inside : List Char} (hcloses : ClosesAtMost depth inside) :
      IsInside depth inside inside

/-- An empty text closes no bracket. -/
theorem closesAtMost_nil (depth : Nat) : ClosesAtMost depth [] := by
  intro before hbefore
  rw [List.prefix_nil.mp hbefore]
  exact Nat.zero_le _

/-- A character in front of a text changes how many brackets are open before it. -/
theorem ClosesAtMost.cons {depth inner : Nat} {c : Char} {text : List Char}
    (hcount : depth + [c].count '<' = inner + [c].count '>') (h : ClosesAtMost inner text) :
    ClosesAtMost depth (c :: text) := by
  intro before hbefore
  cases before with
  | nil => exact Nat.zero_le _
  | cons d before =>
      obtain ⟨rfl, hrest⟩ := List.cons_prefix_cons.mp hbefore
      have hle := h before hrest
      rw [← List.singleton_append, List.count_append, List.count_append]
      omega

/-- What is enclosed goes on in front of a character that changes how many brackets are open. -/
theorem IsInside.cons {depth inner : Nat} {c : Char} {text inside : List Char}
    (hcount : depth + [c].count '<' = inner + [c].count '>') (h : IsInside inner text inside) :
    IsInside depth (c :: text) (c :: inside) := by
  cases h with
  | closed hinside hcloses =>
      refine .closed ?_ (hcloses.cons hcount)
      rw [← List.singleton_append, List.count_append, List.count_append]
      omega
  | unclosed hcloses => exact .unclosed (hcloses.cons hcount)

/-! ## Slots -/

/-- The text of some slots, with commas between them. -/
def Slots.joined (slots : Slots) : List Char :=
  [','].intercalate slots.toList

/-- A character in front of the first slot is in front of the text. -/
@[simp]
theorem joined_push (c : Char) (slots : Slots) : (slots.push c).joined = c :: slots.joined := by
  obtain ⟨first, others⟩ := slots
  cases others <;> simp [Slots.joined, Slots.push, Slots.toList]

/-- A comma stands behind an empty slot in front of the others. -/
@[simp]
theorem joined_cut (slots : Slots) : slots.cut.joined = ',' :: slots.joined := by
  simp [Slots.joined, Slots.cut, Slots.toList]

/-- The slots with commas between them are what the bracket of their list encloses. -/
theorem isInside_joined_slots (depth : Nat) (text : List Char) :
    IsInside depth text (slots depth text).joined := by
  induction text generalizing depth with
  | nil => exact .unclosed (closesAtMost_nil depth)
  | cons c rest ih =>
      cases hstep : stepDepth depth c with
      | some inner =>
          rw [slots_cons_of_step hstep, joined_push]
          exact (ih inner).cons (count_of_stepDepth hstep)
      | none =>
          rcases stepDepth_eq_none_iff.mp hstep with ⟨rfl, rfl | rfl⟩
          · rw [slots_zero_close]
            exact @IsInside.closed 0 [] rest rfl (closesAtMost_nil 0)
          · rw [slots_zero_comma, joined_cut]
            exact (ih 0).cons rfl

/-- What holds of the first slot, if it is not the last one, and of the others but the last, holds
of all slots but the last. -/
theorem forall_mem_dropLast_toList {p : List Char → Prop} {slots : Slots}
    (hfirst : slots.others ≠ [] → p slots.first)
    (hothers : ∀ slot ∈ slots.others.dropLast, p slot) :
    ∀ slot ∈ slots.toList.dropLast, p slot := by
  obtain ⟨first, others⟩ := slots
  cases others with
  | nil => simp [Slots.toList]
  | cons second others =>
      rw [Slots.toList, List.dropLast_cons_cons, List.forall_mem_cons]
      exact ⟨hfirst (by simp), hothers⟩

/-- In front of another slot, the first one closes the brackets that are open before it, and each
of the others closes its own. -/
theorem depthAfter_slot_of_followed (depth : Nat) (text : List Char) :
    ((slots depth text).others ≠ [] → depthAfter depth (slots depth text).first = some 0) ∧
      ∀ slot ∈ (slots depth text).others.dropLast, depthAfter 0 slot = some 0 := by
  induction text generalizing depth with
  | nil => simp [slots]
  | cons c rest ih =>
      cases hstep : stepDepth depth c with
      | some inner =>
          rw [slots_cons_of_step hstep]
          simpa [Slots.push, depthAfter_cons, hstep] using ih inner
      | none =>
          rcases stepDepth_eq_none_iff.mp hstep with ⟨rfl, rfl | rfl⟩
          · simp [slots_zero_close]
          · rw [slots_zero_comma]
            exact ⟨fun _ => rfl, forall_mem_dropLast_toList (ih 0).1 (ih 0).2⟩

/-- Every slot of an argument list but the last closes all its brackets. -/
theorem depthAfter_of_mem_dropLast_slots {text slot : List Char}
    (h : slot ∈ (slots 0 text).toList.dropLast) : depthAfter 0 slot = some 0 := by
  obtain ⟨hfirst, hothers⟩ := depthAfter_slot_of_followed 0 text
  exact forall_mem_dropLast_toList hfirst hothers slot h

/-! ## Argument texts -/

/-- The text of the argument that a slot stands for. -/
def slotText (slot : List Char) : List Char :=
  (Argument.ofSlot (trim slot)).text

/-- The texts of the arguments of a signature without its null mark. -/
def argumentTexts (base : List Char) : List (List Char) :=
  (arguments base).map fun argument => (Argument.ofSlot argument).text

/-- Whether a text closes no bracket that it did not open and keeps its commas inside its
brackets, and is neither empty nor has a blank at an end. -/
structure IsArgumentText (text : List Char) : Prop where
  closes : ∀ before, before <+: text → before.count '>' ≤ before.count '<'
  commas : ∀ before, before ++ [','] <+: text → before.count '>' < before.count '<'
  ne_nil : text ≠ []
  trimmed : Trimmed text

/-- A blank slot stands for the word that it implies, and any other for its trimmed text. -/
theorem slotText_eq (slot : List Char) :
    AllBlank slot ∧ slotText slot = Dart.Scalar.dynamic.name.toList ∨
      ¬ AllBlank slot ∧ slotText slot = trim slot := by
  rw [← trim_eq_nil_iff, slotText]
  cases htrim : trim slot with
  | nil => exact Or.inl ⟨rfl, rfl⟩
  | cons c rest => exact Or.inr ⟨by simp, rfl⟩

/-- The text of an argument has the depth of its slot. -/
theorem depthAfter_slotText (depth : Nat) (slot : List Char) :
    depthAfter depth (slotText slot) = depthAfter depth slot := by
  rcases slotText_eq slot with ⟨hblank, htext⟩ | ⟨-, htext⟩
  · rw [htext, depthAfter_blank hblank]
    exact depthAfter_plain (by decide) (by decide) (by decide) depth
  · obtain ⟨lead, tail, hlead, htail, hslot⟩ := exists_eq_pad_trim slot
    rw [htext]
    conv_rhs => rw [hslot]
    exact (depthAfter_padded (.unmarked hlead htail) depth).symm

/-- The text of an argument is trimmed and not empty. -/
theorem trimmed_slotText (slot : List Char) : slotText slot ≠ [] ∧ Trimmed (slotText slot) := by
  rcases slotText_eq slot with ⟨-, htext⟩ | ⟨hblank, htext⟩
  · rw [htext]
    decide
  · rw [htext]
    exact ⟨mt trim_eq_nil_iff.mp hblank, trimmed_trim slot⟩

/-- Every slot of an argument list stands for an argument text. -/
theorem isArgumentText_slotText {text slot : List Char} (h : slot ∈ (slots 0 text).toList) :
    IsArgumentText (slotText slot) := by
  have hdepth : (depthAfter 0 (slotText slot)).isSome := by
    rw [depthAfter_slotText]
    exact isSome_depthAfter_of_mem_slots h
  obtain ⟨hcloses, hcommas⟩ := isSome_depthAfter_iff.mp hdepth
  simp only [Nat.zero_add] at hcloses hcommas
  exact ⟨hcloses, hcommas, (trimmed_slotText slot).1, (trimmed_slotText slot).2⟩

/-- A slot that closes its brackets stands for a text with as many opening as closing ones. -/
theorem count_slotText {slot : List Char} (h : depthAfter 0 slot = some 0) :
    (slotText slot).count '<' = (slotText slot).count '>' := by
  rw [← depthAfter_slotText] at h
  have hcount := count_of_depthAfter h
  omega

/-- The argument texts of a base are those of its slots. -/
theorem argumentTexts_append {before : List Char} (h : '<' ∉ before) (inner : List Char) :
    argumentTexts (before ++ '<' :: inner) = (slots 0 inner).toList.map slotText := by
  rw [argumentTexts, arguments, application_append h, List.map_map]
  rfl

/-- The arguments of a signature with a bracket, well formed or not.  The slots with commas between
them are what stands between the first bracket and the one that matches it, or all that stands
behind the first bracket if none matches it.  There is an argument text for each of them, so there
is one at least.  No text closes a bracket that it did not open or has a comma outside its own
brackets, none is empty or has a blank at an end, and each but the last has as many opening as
closing brackets; the last has, too, if the first bracket of the signature is closed. -/
theorem argumentTexts_partition (signature : String)
    (h : '<' ∈ (stripNullMark signature.toList).1) :
    let base := (stripNullMark signature.toList).1
    ∃ before inner slots, base = before ++ '<' :: inner ∧ '<' ∉ before ∧
      (application base).slots = some slots ∧ IsInside 0 inner ([','].intercalate slots.toList) ∧
      argumentTexts base = slots.toList.map slotText ∧ argumentTexts base ≠ [] ∧
      (∀ text ∈ argumentTexts base, IsArgumentText text) ∧
      (∀ text ∈ (argumentTexts base).dropLast, text.count '<' = text.count '>') ∧
      (FirstBracketCloses signature.toList →
        ∀ text ∈ argumentTexts base, text.count '<' = text.count '>') := by
  intro base
  obtain ⟨before, inner, hbase, hbefore⟩ := List.eq_append_cons_of_mem h
  have hslots : (application base).slots = some (slots 0 inner) := by
    rw [show base = before ++ '<' :: inner from hbase, application_append hbefore]
  have htexts : argumentTexts base = (slots 0 inner).toList.map slotText := by
    rw [show base = before ++ '<' :: inner from hbase, argumentTexts_append hbefore]
  refine ⟨before, inner, slots 0 inner, hbase, hbefore, hslots, isInside_joined_slots 0 inner,
    htexts, ?_, ?_, ?_, ?_⟩
  · rw [htexts]
    simp [Slots.toList]
  · rw [htexts, List.forall_mem_map]
    intro slot hslot
    exact isArgumentText_slotText hslot
  · rw [htexts, ← List.map_dropLast, List.forall_mem_map]
    intro slot hslot
    exact count_slotText (depthAfter_of_mem_dropLast_slots hslot)
  · intro hcloses
    rw [htexts, List.forall_mem_map]
    intro slot hslot
    exact count_slotText (depthAfter_of_firstBracketCloses hcloses hslots hslot)

/-- A blank slot, a comma inside brackets, and noise with brackets behind a list that is closed; and
a list that is not, whose last slot leaves a bracket open. -/
theorem argumentTexts_partition_pair :
    let closed := "Map< ,Pair<A, B>,C>>, <x ?"
    let unclosed := "Map<int,List<C ?"
    let base := (stripNullMark closed.toList).1
    '<' ∈ base ∧ FirstBracketCloses closed.toList ∧
      argumentTexts base = ["dynamic".toList, "Pair<A, B>".toList, "C".toList] ∧
      (∀ text ∈ argumentTexts base, text.count '<' = text.count '>') ∧
      argumentTexts (stripNullMark unclosed.toList).1 = ["int".toList, "List<C".toList] ∧
      ∀ text ∈ argumentTexts (stripNullMark unclosed.toList).1, IsArgumentText text := by
  intro closed unclosed base
  have hopen : '<' ∈ base := by decide
  have hcloses : FirstBracketCloses closed.toList := by
    refine ⟨"Map".toList, " ,Pair<A, B>,C".toList, ">, <x ?".toList, by decide, by decide,
      by decide, ?_⟩
    intro start hstart
    have hall : ∀ start ∈ " ,Pair<A, B>,C".toList.inits,
        start.count '>' ≤ start.count '<' := by decide
    exact hall start ((List.mem_inits _ _).mpr hstart)
  obtain ⟨-, -, -, -, -, -, -, -, -, -, -, hbalanced⟩ := argumentTexts_partition closed hopen
  obtain ⟨-, -, -, -, -, -, -, -, -, htexts, -⟩ := argumentTexts_partition unclosed (by decide)
  exact ⟨hopen, hcloses, by decide, hbalanced hcloses, by decide, htexts⟩

end Memberwise.Signature
