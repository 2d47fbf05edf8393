import Memberwise.Proofs.Json.Reading

/-!
# Records and their spellings

A record that is written as an object has its parts as members, in any order and among members of
other names.  While it is read, the state only depends on the names of the members so far, so it
can be given for every list of names at once.

Main definitions:

- {lit}`SpellsRecord`: whether a text is an object with given parts.
- {lit}`Schema.Drafts`: the states in which members with given names have been read.
- {lit}`Schema.Takes`: what a record makes of one of its parts.
- {lit}`Schema.Finds`: what it makes of an object.

Main results:

- Theorem {lit}`Schema.finds_ok`: a record with all its parts is found.
- Theorem {lit}`Schema.finds_error`: a record with one wrong part has its fault there.
-/

namespace Memberwise.Json

/-! ## Spellings -/

/-- A part of a record as it is written: its name, the texts that its value may have, and whether
it may be left out. -/
structure Part where
  name : String
  spells : List Char → Prop
  isOptional : Prop

/-- Whether members give a part once, or leave it out where they may. -/
def Part.IsGiven (part : Part) (members : List (String × List Char)) : Prop :=
  match members.filter (·.1 == part.name) with
  | [] => part.isOptional
  | [member] => part.spells member.2
  | _ => False

/-- Whether a text is an object with some parts, in any order.  Members with other names may have
values of any kind. -/
def SpellsRecord (parts : List Part) (text : List Char) : Prop :=
  ∃ members, SpellsObject SpellsString Eq members text ∧
    (∀ part ∈ parts, part.IsGiven members) ∧
    ∀ member ∈ members, (∀ part ∈ parts, part.name ≠ member.1) → IsJson member.2

/-- The parts of a record, of which one has to be given and is written in some other way. -/
def overriding (parts : List Part) (name : String) (spells : List Char → Prop) : List Part :=
  parts.map fun part => if part.name = name then ⟨name, spells, False⟩ else part

/-- A record begins with a brace. -/
theorem SpellsRecord.begins {parts : List Part} {text : List Char} (h : SpellsRecord parts text) :
    Begins text := by
  obtain ⟨members, htext, -⟩ := h
  exact Enclosed.begins htext

/-- The parts of a record keep their names when one of them is written in some other way. -/
theorem map_name_overriding (parts : List Part) (name : String) (spells : List Char → Prop) :
    (overriding parts name spells).map Part.name = parts.map Part.name := by
  simp only [overriding, List.map_map]
  refine List.map_congr_left ?_
  intro part _
  by_cases hname : part.name = name <;> simp [hname]

/-- A part that is left out may be. -/
theorem Part.IsGiven.isOptional_of_missing {part : Part} {members : List (String × List Char)}
    (h : part.IsGiven members) (hmissing : part.name ∉ members.map Prod.fst) :
    part.isOptional := by
  have hnone : members.filter (·.1 == part.name) = [] := by
    simp only [List.filter_eq_nil_iff, beq_iff_eq]
    intro member hmember hname
    exact hmissing (List.mem_map.mpr ⟨member, hmember, hname⟩)
  simpa only [Part.IsGiven, hnone] using h

/-- A part is given by the first member that has its name. -/
theorem Part.IsGiven.of_append {part : Part} {before after : List (String × List Char)}
    {value : List Char} (h : part.IsGiven (before ++ (part.name, value) :: after)) :
    part.spells value ∧ part.name ∉ before.map Prod.fst := by
  simp only [Part.IsGiven, List.filter_append, List.filter_cons, beq_self_eq_true, if_true] at h
  cases hbefore : before.filter (·.1 == part.name) with
  | nil =>
      rw [hbefore, List.nil_append] at h
      constructor
      · split at h
        · contradiction
        · rename_i member hmember
          obtain ⟨rfl, -⟩ := List.cons.inj hmember
          exact h
        · contradiction
      · intro hmem
        obtain ⟨member, hmember, hname⟩ := List.mem_map.mp hmem
        exact List.filter_eq_nil_iff.mp hbefore member hmember (by simp [hname])
  | cons member others =>
      rw [hbefore] at h
      split at h
      · contradiction
      · rename_i hlist
        simp at hlist
      · contradiction

/-! ## Members -/

namespace Schema

variable {σ α : Type} {schema : Schema σ α} {draft : List String → σ} {parts : List Part}

/-- Whether a state for every list of names is the one in which members with these names have been
read: at first it is empty, and members that the record does not have leave it alone. -/
structure Drafts (schema : Schema σ α) (draft : List String → σ) : Prop where
  empty : draft [] = schema.empty
  skip : ∀ {name : String}, name ∉ schema.slots.map Slot.name →
    ∀ seen, draft (seen ++ [name]) = draft seen

/-- Whether a record comes to something on a part that has not been read yet, given the names of
the members in front of it. -/
def Takes (schema : Schema σ α) (draft : List String → σ) (part : Part)
    (outcome : List String → Except Path σ) : Prop :=
  ∀ seen, part.name ∉ seen → ∃ slot, schema.slots.find? (·.name == part.name) = some slot ∧
    slot.isFilled (draft seen) = false ∧
    ∀ text, part.spells text → Yields (slot.read (draft seen)) text (outcome seen)

/-- A slot comes to what its reader comes to on the texts of a part. -/
theorem takes_slotOf {β : Type} {part : Part} {get : σ → Option β} {set : σ → β → σ}
    {read : Reader β} {outcome : Except Path β} {result : List String → Except Path σ}
    (hfind : schema.slots.find? (·.name == part.name) = some (Slot.of part.name get set read))
    (hget : ∀ seen, part.name ∉ seen → get (draft seen) = none)
    (hresult : ∀ seen, outcome.map (set (draft seen)) = result seen)
    (hread : ∀ text, part.spells text → Yields read text outcome) :
    schema.Takes draft part result := by
  intro seen hseen
  refine ⟨_, hfind, ?_, ?_⟩
  · simp [Slot.of, hget seen hseen]
  · intro text htext
    rw [← hresult seen]
    exact (hread text htext).map (set (draft seen))

/-- A member that the record does not have is skipped. -/
theorem exists_member_of_not_mem {name : String} (hname : name ∉ schema.slots.map Slot.name)
    {value : List Char} (hvalue : IsJson value) (state : σ) :
    ∃ read, schema.member name state = .ok read ∧ Yields read value (.ok state) := by
  have hfind : schema.slots.find? (·.name == name) = none := by
    simp only [List.find?_eq_none, beq_iff_eq]
    intro slot hslot hslotName
    exact hname (List.mem_map.mpr ⟨slot, hslot, hslotName⟩)
  refine ⟨_, by rw [member, hfind], ?_⟩
  have hskip : Yields skipValue value (.ok ()) := by
    intro blanks rest hblanks hrest
    exact located_eq_ok_iff.mpr (hvalue.skipValue_append hblanks hrest)
  exact hskip.map fun _ => state

/-- A member that the record has is read as its slot reads it. -/
theorem Takes.exists_member {part : Part} {outcome : List String → Except Path σ}
    (h : schema.Takes draft part outcome) {seen : List String} (hseen : part.name ∉ seen)
    {value : List Char} (hvalue : part.spells value) :
    ∃ read, schema.member part.name (draft seen) = .ok read ∧ Yields read value (outcome seen) := by
  obtain ⟨slot, hfind, hfilled, hread⟩ := h seen hseen
  refine ⟨slot.read (draft seen), ?_, hread value hvalue⟩
  rw [member, hfind]
  dsimp only
  rw [if_neg (by simp [hfilled])]

/-- The members of a record are read into its drafts, up to any of them. -/
theorem Drafts.gathers_append (hdrafts : schema.Drafts draft)
    (hnames : parts.map Part.name = schema.slots.map Slot.name)
    {before after : List (String × List Char)}
    (hgiven : ∀ part ∈ parts, part.IsGiven (before ++ after))
    (hothers : ∀ member ∈ before ++ after, (∀ part ∈ parts, part.name ≠ member.1) →
      IsJson member.2)
    (htakes : ∀ part ∈ parts, part.name ∈ before.map Prod.fst →
      schema.Takes draft part fun seen => .ok (draft (seen ++ [part.name])))
    {outcome : Except Path σ}
    (h : Gathers schema.member (draft (before.map Prod.fst)) after outcome) :
    Gathers schema.member schema.empty (before ++ after) outcome := by
  induction before using List.reverseRecOn generalizing after with
  | nil => rwa [← hdrafts.empty]
  | append_singleton before member ih =>
      obtain ⟨name, value⟩ := member
      simp only [List.append_assoc, List.singleton_append] at hgiven hothers ⊢
      simp only [List.map_append, List.map_cons, List.map_nil] at h htakes
      refine ih hgiven hothers (fun part hpart hmem => htakes part hpart (by simp [hmem])) ?_
      by_cases hname : ∃ part ∈ parts, part.name = name
      · obtain ⟨part, hpart, rfl⟩ := hname
        obtain ⟨hvalue, hseen⟩ := (hgiven part hpart).of_append
        obtain ⟨read, hmember, hread⟩ :=
          (htakes part hpart (by simp)).exists_member hseen hvalue
        exact .next hmember hread h
      · have hunknown : name ∉ schema.slots.map Slot.name := by
          rw [← hnames]
          simpa using hname
        obtain ⟨read, hmember, hread⟩ := exists_member_of_not_mem hunknown
          (hothers (name, value) (by simp) (by simpa using hname)) (draft (before.map Prod.fst))
        rw [hdrafts.skip hunknown] at h
        exact .next hmember hread h

/-! ## Objects -/

/-- Whether a record comes to something on an object, behind its opening brace. -/
def Finds (schema : Schema σ α) (text : List Char) (outcome : Except Path α) : Prop :=
  ∃ inside, text = '{' :: inside ∧ ∀ rest,
    located (schema.readObject (inside ++ rest)) = outcome.map fun a => (a, rest)

/-- What a record comes to on an object, it comes to wherever the object stands. -/
theorem Finds.yields {text : List Char} {outcome : Except Path α} (h : schema.Finds text outcome) :
    Yields schema.read text outcome := by
  obtain ⟨inside, rfl, hread⟩ := h
  intro blanks rest hblanks _
  rw [read, List.cons_append, skipBlanks_blanks_append hblanks (by decide)]
  exact hread rest

/-- A record with all its parts is found. -/
theorem finds_ok (hdrafts : schema.Drafts draft)
    (hnames : parts.map Part.name = schema.slots.map Slot.name)
    (htakes : ∀ part ∈ parts,
      schema.Takes draft part fun seen => .ok (draft (seen ++ [part.name])))
    {a : α} (hfinish : ∀ seen, (∀ part ∈ parts, part.name ∉ seen → part.isOptional) →
      schema.ofMembers (draft seen) = .ok a)
    {text : List Char} (h : SpellsRecord parts text) : schema.Finds text (.ok a) := by
  obtain ⟨members, htext, hgiven, hothers⟩ := h
  have hgathers :
      Gathers schema.member schema.empty members (.ok (draft (members.map Prod.fst))) := by
    rw [← List.append_nil members] at hgiven hothers ⊢
    refine hdrafts.gathers_append hnames hgiven hothers (fun part hpart _ => htakes part hpart) ?_
    rw [List.append_nil]
    exact .nil
  obtain ⟨inside, rfl, hread⟩ := hgathers.located_readObjectBody htext
  refine ⟨inside, rfl, ?_⟩
  intro rest
  have hmissing : ∀ part ∈ parts, part.name ∉ members.map Prod.fst → part.isOptional :=
    fun part hpart => (hgiven part hpart).isOptional_of_missing
  have hbody := located_eq_ok_iff.mp (hread rest)
  refine located_eq_ok_iff.mpr ?_
  rw [readObject, hbody, ok_bind]
  dsimp only
  rw [hfinish _ hmissing]

/-- A record with one wrong part has its fault there. -/
theorem finds_error (hdrafts : schema.Drafts draft)
    (hnames : parts.map Part.name = schema.slots.map Slot.name)
    (htakes : ∀ part ∈ parts,
      schema.Takes draft part fun seen => .ok (draft (seen ++ [part.name])))
    {name : String} (hname : name ∈ parts.map Part.name) {wrong : List Char → Prop} {path : Path}
    (hrefuses : schema.Takes draft ⟨name, wrong, False⟩ fun _ => .error path)
    {text : List Char} (h : SpellsRecord (overriding parts name wrong) text) :
    schema.Finds text (.error (.member name :: path)) := by
  obtain ⟨members, htext, hgiven, hothers⟩ := h
  have hwrong : ⟨name, wrong, False⟩ ∈ overriding parts name wrong := by
    obtain ⟨part, hpart, hpartName⟩ := List.mem_map.mp hname
    exact List.mem_map.mpr ⟨part, hpart, by rw [if_pos hpartName]⟩
  have hmem : name ∈ members.map Prod.fst := by
    by_contra hmissing
    exact (hgiven _ hwrong).isOptional_of_missing hmissing
  obtain ⟨⟨_, value⟩, hmember, rfl⟩ := List.mem_map.mp hmem
  dsimp only at hname hrefuses hgiven hothers hwrong ⊢
  rename_i name
  obtain ⟨before, after, rfl⟩ := List.append_of_mem hmember
  obtain ⟨hvalue, hseen⟩ := (hgiven _ hwrong).of_append
  obtain ⟨read, hread, hpath⟩ := hrefuses.exists_member hseen hvalue
  have hgathers := hdrafts.gathers_append (by rwa [map_name_overriding]) hgiven hothers ?_
    (.refused hread hpath)
  · obtain ⟨inside, rfl, hread⟩ := hgathers.located_readObjectBody htext
    refine ⟨inside, rfl, ?_⟩
    intro rest
    obtain ⟨fault, hfault, hplace⟩ := located_eq_error_iff.mp (hread rest)
    refine located_eq_error_iff.mpr ⟨fault, ?_, hplace⟩
    rw [readObject, hfault]
    rfl
  · -- In front of the wrong part, the parts are written as they should be.
    intro part hpart hbefore
    obtain ⟨original, horiginal, rfl⟩ := List.mem_map.mp hpart
    by_cases hsame : original.name = name
    · rw [if_pos hsame] at hbefore
      exact absurd hbefore hseen
    · rw [if_neg hsame]
      exact htakes original horiginal

end Schema

end Memberwise.Json
