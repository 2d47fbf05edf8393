import Mathlib.Data.List.Nodup
import Memberwise.Proofs.Json.Decoding
import Memberwise.Proofs.Json.Parts

/-!
# Records of choices

Some records have members of one kind only, each of which may be given or not.  What is given is a
choice: a value, or none, for every key.  A spelling of a choice is read to the state that keeps
it, whichever order the members are in.

Main definitions:

- {lit}`Part.ofChoice`: a part that is left out exactly if no value is chosen for it.
- {lit}`Schema.Uniform`: the keys of a record, and the states that keep choices.

Main results:

- Theorem {lit}`Schema.Uniform.finds`: a spelling of a choice is found to be what keeps it.
- Theorem {lit}`SpellsRecord.of_spells`: an object with all parts of a record spells it.
-/

namespace Memberwise.Json

/-! ## Choices -/

section Choices

variable {σ α κ β : Type} [DecidableEq κ]

/-- The part of a record for a value that may be chosen.  It is given if there is one, and left out
if there is none. -/
def Part.ofChoice (name : String) (spells : β → List Char → Prop) : Option β → Part
  | some value => ⟨name, spells value, False⟩
  | none => ⟨name, fun _ => False, True⟩

/-- A choice does not change the name of a part. -/
@[simp]
theorem Part.name_ofChoice (name : String) (spells : β → List Char → Prop) (choice : Option β) :
    (Part.ofChoice name spells choice).name = name := by
  cases choice <;> rfl

/-- A part may be left out if no value is chosen for it. -/
@[simp]
theorem Part.isOptional_ofChoice (name : String) (spells : β → List Char → Prop)
    (choice : Option β) : (Part.ofChoice name spells choice).isOptional ↔ choice = none := by
  cases choice <;> simp [Part.ofChoice]

/-- A record whose members are of one kind: a key for each of its slots, and a state for every
choice of values, which the slots look up and extend. -/
structure Schema.Uniform (schema : Schema σ α) (κ β : Type) [DecidableEq κ] where
  keys : List κ
  name : κ → String
  read : Reader β
  get : κ → σ → Option β
  set : κ → σ → β → σ
  state : (κ → Option β) → σ
  mem_keys : ∀ key, key ∈ keys
  nodup : (keys.map name).Nodup
  slots_eq : schema.slots = keys.map fun key => Slot.of (name key) (get key) (set key) read
  empty_eq : schema.empty = state fun _ => none
  get_state : ∀ key choice, get key (state choice) = choice key
  set_state : ∀ key choice value,
    set key (state choice) value = state (Function.update choice key (some value))

namespace Schema.Uniform

variable {schema : Schema σ α} (uniform : schema.Uniform κ β)

/-- The parts of a record for a choice of values. -/
def parts (spells : β → List Char → Prop) (choice : κ → Option β) : List Part :=
  uniform.keys.map fun key => .ofChoice (uniform.name key) spells (choice key)

/-- What has been read of a choice when members with some names have been read. -/
def given (choice : κ → Option β) (seen : List String) : σ :=
  uniform.state fun key => if uniform.name key ∈ seen then choice key else none

variable {spells : β → List Char → Prop} {choice : κ → Option β}

/-- Different keys have different names. -/
theorem name_inj {key key' : κ} : uniform.name key = uniform.name key' ↔ key = key' := by
  constructor
  · exact List.inj_on_of_nodup_map uniform.nodup (uniform.mem_keys key) (uniform.mem_keys key')
  · rintro rfl
    rfl

/-- The slots of a record have the names of its keys. -/
theorem map_name_slots : schema.slots.map Slot.name = uniform.keys.map uniform.name := by
  rw [uniform.slots_eq, List.map_map]
  rfl

/-- The parts of a record have the names of its slots. -/
theorem map_name_parts :
    (uniform.parts spells choice).map Part.name = schema.slots.map Slot.name := by
  rw [uniform.map_name_slots, parts, List.map_map]
  exact List.map_congr_left fun key _ => Part.name_ofChoice _ _ _

/-- The slot of a key is found by its name. -/
theorem find_slots (key : κ) :
    schema.slots.find? (·.name == uniform.name key) =
      some (Slot.of (uniform.name key) (uniform.get key) (uniform.set key) uniform.read) := by
  have hkey : uniform.keys.find? (fun other => uniform.name other == uniform.name key) =
      some key := by
    cases hfind : uniform.keys.find? (fun other => uniform.name other == uniform.name key) with
    | none =>
        have hnone := List.find?_eq_none.mp hfind key (uniform.mem_keys key)
        simp at hnone
    | some other =>
        have hname := List.find?_some hfind
        rw [beq_iff_eq, uniform.name_inj] at hname
        rw [hname]
  rw [uniform.slots_eq, List.find?_map]
  change Option.map _ (uniform.keys.find? fun other => uniform.name other == uniform.name key) = _
  rw [hkey]
  rfl

/-- Choices are read member by member. -/
theorem drafts (choice : κ → Option β) : schema.Drafts (uniform.given choice) where
  empty := by simp [given, uniform.empty_eq]
  skip := by
    intro name hname seen
    rw [uniform.map_name_slots] at hname
    have hne : ∀ key, uniform.name key ≠ name := by
      rintro key rfl
      exact hname (List.mem_map_of_mem (uniform.mem_keys key))
    simp [given, hne]

/-- Once a member has been read, its value is kept. -/
theorem set_given {key : κ} {value : β} (hchoice : choice key = some value) (seen : List String) :
    uniform.set key (uniform.given choice seen) value =
      uniform.given choice (seen ++ [uniform.name key]) := by
  rw [given, given, uniform.set_state]
  congr 1
  funext other
  by_cases hother : other = key
  · subst hother
    simp [hchoice]
  · simp [hother, uniform.name_inj]

/-- Every part is taken where it stands. -/
theorem takes (hread : ∀ value text, spells value text → Yields uniform.read text (.ok value)) :
    ∀ part ∈ uniform.parts spells choice, schema.Takes (uniform.given choice) part fun seen =>
      .ok (uniform.given choice (seen ++ [part.name])) := by
  rw [parts, List.forall_mem_map]
  intro key _ seen hseen
  rw [Part.name_ofChoice] at hseen
  simp only [Part.name_ofChoice]
  refine ⟨_, uniform.find_slots key, ?_, ?_⟩
  · simp [Slot.of, given, uniform.get_state, hseen]
  · intro text htext
    cases hchoice : choice key with
    | none =>
        rw [hchoice] at htext
        contradiction
    | some value =>
        rw [hchoice] at htext
        rw [← uniform.set_given hchoice]
        exact (hread value text htext).map _

/-- When no part is missing that is chosen, everything has been read. -/
theorem given_eq_state {seen : List String}
    (hmissing : ∀ part ∈ uniform.parts spells choice, part.name ∉ seen → part.isOptional) :
    uniform.given choice seen = uniform.state choice := by
  rw [parts, List.forall_mem_map] at hmissing
  rw [given]
  congr 1
  funext key
  have hkey := hmissing key (uniform.mem_keys key)
  rw [Part.name_ofChoice, Part.isOptional_ofChoice] at hkey
  by_cases hname : uniform.name key ∈ seen
  · rw [if_pos hname]
  · rw [if_neg hname, hkey hname]

/-- A spelling of a choice is found to be what keeps it. -/
theorem finds (hread : ∀ value text, spells value text → Yields uniform.read text (.ok value))
    {a : α} (hfinish : schema.ofMembers (uniform.state choice) = .ok a) {text : List Char}
    (h : SpellsRecord (uniform.parts spells choice) text) : schema.Finds text (.ok a) := by
  refine finds_ok (uniform.drafts choice) uniform.map_name_parts (uniform.takes hread) ?_ h
  intro seen hmissing
  rw [uniform.given_eq_state hmissing, hfinish]

end Schema.Uniform

end Choices

/-! ## Objects with all parts -/

/-- Among members with different names, one has a given name. -/
theorem filter_name_eq_singleton {β : Type} {members : List (String × β)}
    (hnames : (members.map Prod.fst).Nodup) {member : String × β} (h : member ∈ members) :
    members.filter (·.1 == member.1) = [member] := by
  induction members with
  | nil => contradiction
  | cons first members ih =>
      rw [List.map_cons, List.nodup_cons] at hnames
      rcases List.mem_cons.mp h with rfl | h
      · have hrest : members.filter (·.1 == member.1) = [] := by
          simp only [List.filter_eq_nil_iff, beq_iff_eq]
          intro other hother hname
          exact hnames.1 (hname ▸ List.mem_map_of_mem hother)
        rw [List.filter_cons_of_pos (by simp), hrest]
      · have hfirst : first.1 ≠ member.1 := by
          intro hname
          exact hnames.1 (hname ▸ List.mem_map_of_mem h)
        rw [List.filter_cons_of_neg (by simpa using hfirst), ih hnames.2 h]

/-- An object that has all parts of a record, and no other members, spells the record. -/
theorem SpellsRecord.of_spells {γ : Type} {list : List γ} {part : γ → Part} {datum : γ → Datum}
    {text : List Char} (hnames : (list.map fun a => (part a).name).Nodup)
    (hspells : ∀ a ∈ list, ∀ text, Spells (datum a) text → (part a).spells text)
    (h : Spells (.object (list.map fun a => ((part a).name, datum a))) text) :
    SpellsRecord (list.map part) text := by
  generalize hobject : Datum.object (list.map fun a => ((part a).name, datum a)) = object at h
  cases h with
  | null h => contradiction
  | boolean h => contradiction
  | number h => contradiction
  | string h => contradiction
  | array h helements => contradiction
  | @object members _ h hmembers =>
      have hlist := Datum.object.inj hobject
      have hmemberNames : members.map Prod.fst = list.map fun a => (part a).name := by
        have hfirst := congrArg (List.map Prod.fst) hlist
        simpa only [List.map_map, Function.comp_def] using hfirst.symm
      have hnames : ((members.map fun member => (member.1, member.2.2)).map Prod.fst).Nodup := by
        rw [List.map_map]
        exact hmemberNames ▸ hnames
      refine ⟨_, h, ?_, ?_⟩
      · rw [List.forall_mem_map]
        intro a ha
        have hmem :
            ((part a).name, datum a) ∈ members.map fun member => (member.1, member.2.1) := by
          rw [← hlist]
          exact List.mem_map_of_mem ha
        obtain ⟨member, hmember, heq⟩ := List.mem_map.mp hmem
        obtain ⟨hname, hdatum⟩ := Prod.mk.inj heq
        rw [Part.IsGiven, ← hname, filter_name_eq_singleton hnames (List.mem_map_of_mem hmember)]
        exact hspells a ha _ (hdatum ▸ hmembers member hmember)
      · rw [List.forall_mem_map]
        intro member hmember hother
        have hmem : member.1 ∈ list.map fun a => (part a).name := by
          rw [← hmemberNames]
          exact List.mem_map_of_mem hmember
        obtain ⟨a, ha, hname⟩ := List.mem_map.mp hmem
        exact absurd hname (hother (part a) (List.mem_map_of_mem ha))

/-- An object with a value for every key spells the choice of all these values. -/
theorem Schema.Uniform.spellsRecord_of_spells {σ α κ β : Type} [DecidableEq κ]
    {schema : Schema σ α} (uniform : schema.Uniform κ β) {spells : β → List Char → Prop}
    {datum : β → Datum} (hspells : ∀ value text, Spells (datum value) text → spells value text)
    {value : κ → β} {text : List Char}
    (h : Spells (.object (uniform.keys.map fun key => (uniform.name key, datum (value key)))) text) :
    SpellsRecord (uniform.parts spells fun key => some (value key)) text :=
  .of_spells uniform.nodup (fun key _ => hspells (value key)) h

end Memberwise.Json
