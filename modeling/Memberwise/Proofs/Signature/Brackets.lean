import Mathlib.Data.List.Infix
import Memberwise.Signature.Arguments

/-!
# Brackets of a signature

How deep the angle brackets of a text are nested, and what that says about the
slots that an argument list is cut into.

Main results:

- Theorem {lit}`isSome_depthAfter_iff`: a text has a depth exactly if it closes no
  bracket that it did not open and keeps its commas inside its brackets.
- Theorem {lit}`depthAfter_eq_zero_iff`: which texts close exactly the brackets that they
  open.
- Theorem {lit}`slots_append`: a text that has a depth is kept in one slot.
- Theorem {lit}`slots_intercalate`: balanced texts with commas between them are slots.
- Theorem {lit}`isSome_depthAfter_of_mem_slots`: every slot has a depth.
- Theorem {lit}`depthAfter_of_mem_slots_of_closed`: every slot of an argument list that
  is closed closes all its brackets.
-/

namespace Memberwise.Signature

/-! ## Depth -/

/-- How many brackets are open after a character, if some are open before it.
Nothing is said about a closing bracket or a comma outside all brackets. -/
def stepDepth (depth : Nat) (c : Char) : Option Nat :=
  if c = '<' then some (depth + 1)
  else if c = '>' then
    if depth = 0 then none else some (depth - 1)
  else if c = ',' ∧ depth = 0 then none
  else some depth

/-- How many brackets are open after a text, if some are open before it. -/
def depthAfter (depth : Nat) (text : List Char) : Option Nat :=
  text.foldlM stepDepth depth

/-- A character has no depth only outside all brackets. -/
theorem stepDepth_eq_none_iff {depth : Nat} {c : Char} :
    stepDepth depth c = none ↔ depth = 0 ∧ (c = '>' ∨ c = ',') := by
  unfold stepDepth
  split_ifs <;> simp_all
  tauto

/-- A step inside more brackets is the same step. -/
theorem stepDepth_add {depth inner : Nat} {c : Char}
    (h : stepDepth depth c = some inner) (outer : Nat) :
    stepDepth (depth + outer) c = some (inner + outer) := by
  unfold stepDepth at h ⊢
  split_ifs at h ⊢ <;> simp_all <;> omega

/-- A step opens or closes one bracket, or none. -/
theorem count_of_stepDepth {depth inner : Nat} {c : Char}
    (h : stepDepth depth c = some inner) :
    depth + [c].count '<' = inner + [c].count '>' := by
  unfold stepDepth at h
  split_ifs at h <;> simp_all
  omega

@[simp]
theorem depthAfter_nil (depth : Nat) : depthAfter depth [] = some depth :=
  rfl

theorem depthAfter_cons (depth : Nat) (c : Char) (rest : List Char) :
    depthAfter depth (c :: rest) =
      (stepDepth depth c).bind fun inner => depthAfter inner rest :=
  rfl

/-- The depth after two texts is counted through the first one. -/
theorem depthAfter_append (depth : Nat) (left right : List Char) :
    depthAfter depth (left ++ right) =
      (depthAfter depth left).bind fun inner => depthAfter inner right :=
  List.foldlM_append

/-- A text that has a depth has one inside more brackets. -/
theorem depthAfter_add {depth inner : Nat} {text : List Char}
    (h : depthAfter depth text = some inner) (outer : Nat) :
    depthAfter (depth + outer) text = some (inner + outer) := by
  induction text generalizing depth with
  | nil => simp_all
  | cons c rest ih =>
      rw [depthAfter_cons, Option.bind_eq_some_iff] at h
      rcases h with ⟨next, hstep, hrest⟩
      rw [depthAfter_cons, stepDepth_add hstep outer]
      exact ih hrest

/-- The brackets of a text that has a depth account for it. -/
theorem count_of_depthAfter {depth inner : Nat} {text : List Char}
    (h : depthAfter depth text = some inner) :
    depth + text.count '<' = inner + text.count '>' := by
  induction text generalizing depth with
  | nil => simp_all
  | cons c rest ih =>
      rw [depthAfter_cons, Option.bind_eq_some_iff] at h
      rcases h with ⟨next, hstep, hrest⟩
      have hfirst := count_of_stepDepth hstep
      have hlater := ih hrest
      rw [← List.singleton_append, List.count_append, List.count_append]
      omega

/-- A text without brackets and commas keeps every depth. -/
theorem depthAfter_plain {text : List Char} (hopen : '<' ∉ text) (hclose : '>' ∉ text)
    (hcomma : ',' ∉ text) (depth : Nat) : depthAfter depth text = some depth := by
  induction text with
  | nil => rfl
  | cons c rest ih =>
      rw [List.mem_cons, not_or] at hopen hclose hcomma
      have hstep : stepDepth depth c = some depth := by
        simp [stepDepth, Ne.symm hopen.1, Ne.symm hclose.1, Ne.symm hcomma.1]
      rw [depthAfter_cons, hstep]
      exact ih hopen.2 hclose.2 hcomma.2

/-- A text has a depth exactly if none of its prefixes closes more brackets than
were open, and none that a comma follows closes them all. -/
theorem isSome_depthAfter_iff {depth : Nat} {text : List Char} :
    (depthAfter depth text).isSome ↔
      (∀ before, before <+: text → before.count '>' ≤ depth + before.count '<') ∧
        ∀ before, before ++ [','] <+: text →
          before.count '>' < depth + before.count '<' := by
  constructor
  · intro h
    rcases Option.isSome_iff_exists.mp h with ⟨inner, hinner⟩
    constructor
    · rintro before ⟨after, rfl⟩
      rw [depthAfter_append, Option.bind_eq_some_iff] at hinner
      rcases hinner with ⟨next, hbefore, _⟩
      have hcount := count_of_depthAfter hbefore
      omega
    · rintro before ⟨after, rfl⟩
      rw [List.append_assoc, depthAfter_append, Option.bind_eq_some_iff] at hinner
      rcases hinner with ⟨next, hbefore, hcomma⟩
      have hcount := count_of_depthAfter hbefore
      have hnext : next ≠ 0 := by
        rintro rfl
        rw [List.singleton_append, depthAfter_cons,
          stepDepth_eq_none_iff.mpr ⟨rfl, Or.inr rfl⟩] at hcomma
        simp at hcomma
      omega
  · rintro ⟨hclose, hcomma⟩
    -- a longest readable prefix would be followed by a character without a step
    induction text generalizing depth with
    | nil => rfl
    | cons c rest ih =>
        cases hstep : stepDepth depth c with
        | none =>
            rcases stepDepth_eq_none_iff.mp hstep with ⟨rfl, rfl | rfl⟩
            · simpa using hclose ['>'] (by simp)
            · simpa using hcomma [] (by simp)
        | some next =>
            have hcount := count_of_stepDepth hstep
            rw [depthAfter_cons, hstep]
            refine ih ?_ ?_
            · intro before hbefore
              have hle := hclose (c :: before) (List.cons_prefix_cons.mpr ⟨rfl, hbefore⟩)
              rw [← List.singleton_append, List.count_append, List.count_append] at hle
              omega
            · intro before hbefore
              have hlt := hcomma (c :: before) (List.cons_prefix_cons.mpr ⟨rfl, hbefore⟩)
              rw [← List.singleton_append, List.count_append, List.count_append] at hlt
              omega

/-- Whether a text closes exactly the brackets that it opens, and keeps its commas inside
them. -/
structure IsBalanced (text : List Char) : Prop where
  balanced : text.count '<' = text.count '>'
  /-- No prefix closes more brackets than it opens. -/
  closes : ∀ before, before <+: text → before.count '>' ≤ before.count '<'
  /-- Every comma stands inside some brackets. -/
  commas : ∀ before, before ++ [','] <+: text → before.count '>' < before.count '<'

/-- A text is balanced exactly if it keeps the depth outside all brackets. -/
theorem depthAfter_eq_zero_iff {text : List Char} :
    depthAfter 0 text = some 0 ↔ IsBalanced text := by
  constructor
  · intro hdepth
    have hcount := count_of_depthAfter hdepth
    have hsome : (depthAfter 0 text).isSome := by simp [hdepth]
    rcases isSome_depthAfter_iff.mp hsome with ⟨hcloses, hcommas⟩
    simp only [Nat.zero_add] at hcount hcloses hcommas
    exact ⟨hcount, hcloses, hcommas⟩
  · rintro ⟨hbalanced, hcloses, hcommas⟩
    have hsome : (depthAfter 0 text).isSome :=
      isSome_depthAfter_iff.mpr ⟨by simpa using hcloses, by simpa using hcommas⟩
    rcases Option.isSome_iff_exists.mp hsome with ⟨depth, hdepth⟩
    have hcount := count_of_depthAfter hdepth
    obtain rfl : depth = 0 := by omega
    exact hdepth

/-! ## Slots -/

/-- Puts a text in front of the first slot. -/
def Slots.prepend (text : List Char) (slots : Slots) : Slots :=
  { slots with first := text ++ slots.first }

/-- A character that has a step stays in its slot. -/
theorem slots_cons_of_step {depth inner : Nat} {c : Char}
    (h : stepDepth depth c = some inner) (rest : List Char) :
    slots depth (c :: rest) = (slots inner rest).push c := by
  unfold stepDepth at h
  split_ifs at h with hopen hclose hzero hcomma
  · subst hopen
    cases h
    cases depth <;> rw [slots]
  · subst hclose
    cases h
    rcases Nat.exists_eq_succ_of_ne_zero hzero with ⟨outer, rfl⟩
    rw [slots]
    rfl
  · cases h
    rw [slots] <;> tauto

/-- A closing bracket outside all brackets ends the list. -/
theorem slots_zero_close (rest : List Char) : slots 0 ('>' :: rest) = ⟨[], []⟩ := by
  rw [slots]

/-- A comma outside all brackets begins a new slot. -/
theorem slots_zero_comma (rest : List Char) :
    slots 0 (',' :: rest) = (slots 0 rest).cut := by
  rw [slots]

/-- A text that has a depth is kept in one slot. -/
theorem slots_append {depth inner : Nat} {text : List Char}
    (h : depthAfter depth text = some inner) (rest : List Char) :
    slots depth (text ++ rest) = (slots inner rest).prepend text := by
  induction text generalizing depth with
  | nil =>
      cases h
      rfl
  | cons c text ih =>
      rw [depthAfter_cons, Option.bind_eq_some_iff] at h
      rcases h with ⟨next, hstep, htext⟩
      rw [List.cons_append, slots_cons_of_step hstep, ih htext]
      rfl

/-- Balanced texts with commas between them are the slots of the argument list that they
make up, whatever follows its closing bracket. -/
theorem slots_intercalate {first : List Char} {others : List (List Char)}
    (h : ∀ slot ∈ first :: others, depthAfter 0 slot = some 0) (rest : List Char) :
    slots 0 ([','].intercalate (first :: others) ++ '>' :: rest) = ⟨first, others⟩ := by
  induction others generalizing first with
  | nil =>
      have hfirst := h first (by simp)
      rw [List.intercalate_singleton, slots_append hfirst, slots_zero_close]
      simp [Slots.prepend]
  | cons second others ih =>
      have hfirst := h first (by simp)
      have hothers := ih fun slot hslot => h slot (List.mem_cons_of_mem _ hslot)
      rw [List.intercalate_cons_cons, List.append_assoc, List.append_assoc, slots_append hfirst,
        List.singleton_append, slots_zero_comma, hothers]
      simp [Slots.prepend, Slots.cut, Slots.toList]

/-- The first slot has a depth inside the brackets that are open before it, and every
other slot has one. -/
theorem isSome_depthAfter_slot (depth : Nat) (text : List Char) :
    (depthAfter depth (slots depth text).first).isSome ∧
      ∀ slot ∈ (slots depth text).others, (depthAfter 0 slot).isSome := by
  induction text generalizing depth with
  | nil => simp [slots]
  | cons c rest ih =>
      cases hstep : stepDepth depth c with
      | none =>
          rcases stepDepth_eq_none_iff.mp hstep with ⟨rfl, rfl | rfl⟩
          · simp [slots_zero_close]
          · simpa [slots_zero_comma, Slots.cut, Slots.toList] using ih 0
      | some inner =>
          rw [slots_cons_of_step hstep]
          simpa [Slots.push, depthAfter_cons, hstep] using ih inner

/-- Every slot of an argument list has a depth. -/
theorem isSome_depthAfter_of_mem_slots {text slot : List Char}
    (h : slot ∈ (slots 0 text).toList) : (depthAfter 0 slot).isSome := by
  rcases isSome_depthAfter_slot 0 text with ⟨hfirst, hothers⟩
  rcases List.mem_cons.mp h with rfl | hmem
  · exact hfirst
  · exact hothers slot hmem

/-- Where an argument list is closed, its first slot closes the brackets that are open
before it, and every other slot closes its own.  What follows the list makes no
difference. -/
theorem depthAfter_slot_of_closed {depth : Nat} {text : List Char}
    (h : depthAfter (depth + 1) text = some 0) (rest : List Char) :
    depthAfter depth (slots depth (text ++ rest)).first = some 0 ∧
      ∀ slot ∈ (slots depth (text ++ rest)).others, depthAfter 0 slot = some 0 := by
  induction text generalizing depth with
  | nil => simp at h
  | cons c text ih =>
      rw [List.cons_append]
      cases hstep : stepDepth depth c with
      | none =>
          rcases stepDepth_eq_none_iff.mp hstep with ⟨rfl, rfl | rfl⟩
          · simp [slots_zero_close]
          · simpa [slots_zero_comma, Slots.cut, Slots.toList] using ih h
      | some inner =>
          rw [depthAfter_cons, stepDepth_add hstep 1] at h
          rw [slots_cons_of_step hstep]
          simpa [Slots.push, depthAfter_cons, hstep] using ih h

/-- Every slot of an argument list that is closed closes all its brackets. -/
theorem depthAfter_of_mem_slots_of_closed {text rest slot : List Char}
    (hclosed : depthAfter 1 text = some 0) (h : slot ∈ (slots 0 (text ++ rest)).toList) :
    depthAfter 0 slot = some 0 := by
  rcases depthAfter_slot_of_closed hclosed rest with ⟨hfirst, hothers⟩
  rcases List.mem_cons.mp h with rfl | hmem
  · exact hfirst
  · exact hothers slot hmem

/-- What follows the first bracket of a text that closes its brackets closes that
bracket as well. -/
theorem depthAfter_inner {before inner : List Char} (hbefore : '<' ∉ before)
    (h : depthAfter 0 (before ++ '<' :: inner) = some 0) : depthAfter 1 inner = some 0 := by
  rw [depthAfter_append, Option.bind_eq_some_iff] at h
  rcases h with ⟨depth, hdepth, hinner⟩
  have hcount := count_of_depthAfter hdepth
  rw [List.count_eq_zero_of_not_mem hbefore] at hcount
  obtain rfl : depth = 0 := by omega
  exact hinner

end Memberwise.Signature
