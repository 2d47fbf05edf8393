import Memberwise.Proofs.Signature.Spelling

/-!
# Stability of the canonical text

Reading never fails, so that a malformed signature stands for some type as well.
The canonical text of that type need not be read as the same type: a bracket that a
name leaves open takes up a bracket of the type around it.

Main results:

- Theorem {lit}`nested_read`: what is read from a slot can stand inside other types.
- Theorem {lit}`unclosed_read`: a text that closes its brackets is read as a type
  that leaves none open.
- Theorem {lit}`read_text_ne`: a type is not read from its canonical text if
  something inside it leaves a bracket open.
- Theorem {lit}`typeOf_text_typeOf_iff`: the canonical text of a signature's type is
  read as that type exactly if the names below its outermost level are balanced.
-/

namespace Memberwise.Signature

open Memberwise.Text Memberwise.Dart

/-! ## Arguments of a level -/

/-- A level is directly made of what its arguments stand for. -/
theorem children_type (shape : Shape) (nullable : Bool) :
    (Level.type ⟨shape, nullable⟩).children = shape.arguments.map Argument.type := by
  cases shape <;> rfl

/-- An argument of a shape is implied, or it is what a slot stands for. -/
theorem mem_arguments_shape {base : List Char} {argument : Argument}
    (h : argument ∈ (shape base).arguments) :
    (∃ scalar, argument = .implied scalar) ∨
      ∃ slot ∈ arguments base, argument = Argument.ofSlot slot := by
  unfold shape at h
  split at h
  · simp [Shape.arguments] at h
  · simp only at h
    split_ifs at h
    · split at h <;> simp_all [Shape.arguments]
    · split at h <;> rename_i hargs <;>
        simp only [Shape.arguments, List.mem_cons, List.not_mem_nil, or_false] at h <;>
        rcases h with rfl | rfl
      · exact Or.inl ⟨_, rfl⟩
      · exact Or.inl ⟨_, rfl⟩
      · exact Or.inl ⟨_, rfl⟩
      · exact Or.inr ⟨_, by simp [hargs], rfl⟩
      · exact Or.inr ⟨_, by simp [hargs], rfl⟩
      · exact Or.inr ⟨_, by simp [hargs], rfl⟩
    · simp [Shape.arguments] at h

/-- A type is made of scalars and of what is read from the slots of its signature. -/
theorem read_of_mem_children {signature : List Char} {child : DartType}
    (h : child ∈ (read signature).children) :
    (∃ scalar, child = .scalar scalar false) ∨
      ∃ found slot, (application (stripNullMark signature).1).slots = some found ∧
        slot ∈ found.toList ∧ trim slot ≠ [] ∧ child = read slot := by
  rw [read_eq, children_type] at h
  rcases List.mem_map.mp h with ⟨argument, hargument, rfl⟩
  rcases mem_arguments_shape hargument with ⟨scalar, rfl⟩ | ⟨text, htext, rfl⟩
  · exact Or.inl ⟨scalar, rfl⟩
  · rcases exists_slot_of_mem_arguments htext with ⟨found, slot, hfound, hslot, rfl⟩
    by_cases hnil : trim slot = []
    · exact Or.inl ⟨.dynamic, by rw [hnil]; rfl⟩
    · exact Or.inr ⟨found, slot, hfound, hslot, hnil, type_ofSlot_trim hnil⟩

/-- A slot is shorter than the signature it was cut from. -/
theorem length_slot_lt {signature slot : List Char} {found : Slots}
    (hfound : (application (stripNullMark signature).1).slots = some found)
    (hslot : slot ∈ found.toList) : slot.length < signature.length := by
  rcases exists_of_slots_eq_some hfound with ⟨before, inner, hbase, _, rfl⟩
  have hle := length_slot_le 0 inner slot hslot
  have hstrip := length_stripNullMark_le signature
  rw [hbase, List.length_append, List.length_cons] at hstrip
  omega

/-- A property that passes from the slots of every signature to the signature holds of
all texts. -/
theorem slot_induction {motive : List Char → Prop}
    (step : ∀ signature,
      (∀ found slot, (application (stripNullMark signature).1).slots = some found →
        slot ∈ found.toList → motive slot) → motive signature)
    (text : List Char) : motive text := by
  induction hlength : text.length using Nat.strong_induction_on generalizing text with
  | _ length ih =>
      subst hlength
      refine step text ?_
      intro found slot hfound hslot
      exact ih slot.length (length_slot_lt hfound hslot) slot rfl

/-! ## What can be read -/

/-- A type can stand inside others if what it is made of can, and its own name, if it
has one, can. -/
theorem nested_of_children {type : DartType}
    (hchildren : ∀ child ∈ type.children, Nested child)
    (hmodel : ∀ name nullable, type = .model name nullable → Nested type) :
    Nested type := by
  cases type with
  | scalar name nullable => trivial
  | list element nullable => exact hchildren element (by simp [DartType.children])
  | map key value nullable =>
      exact ⟨hchildren key (by simp [DartType.children]),
        hchildren value (by simp [DartType.children])⟩
  | model name nullable => exact hmodel name nullable rfl

/-- A type leaves no bracket open if what it is made of leaves none open, and its own
name, if it has one, does not. -/
theorem unclosed_of_children {type : DartType}
    (hchildren : ∀ child ∈ type.children, unclosed child = 0)
    (hmodel : ∀ name nullable, type = .model name nullable → unclosed type = 0) :
    unclosed type = 0 := by
  cases type with
  | scalar name nullable => rfl
  | list element nullable => exact hchildren element (by simp [DartType.children])
  | map key value nullable =>
      rw [unclosed, hchildren key (by simp [DartType.children]),
        hchildren value (by simp [DartType.children])]
  | model name nullable => exact hmodel name nullable rfl

/-- What is read from a text that can be a slot can stand inside other types. -/
theorem nested_read {text : List Char} (hne : trim text ≠ [])
    (hdepth : (depthAfter 0 text).isSome) : Nested (read text) := by
  induction text using slot_induction with
  | step text ih =>
      refine nested_of_children ?_ ?_
      · intro child hchild
        rcases read_of_mem_children hchild with
          ⟨scalar, rfl⟩ | ⟨found, slot, hfound, hslot, hslotNe, rfl⟩
        · trivial
        · have hslotDepth : (depthAfter 0 slot).isSome := by
            rcases exists_of_slots_eq_some hfound with ⟨before, inner, _, _, rfl⟩
            exact isSome_depthAfter_of_mem_slots hslot
          exact ih found slot hfound hslot hslotNe hslotDepth
      · intro name nullable hread
        rcases read_eq_model_iff.mp hread with ⟨hstrip, hname⟩
        have hbase := isBase_stripNullMark text
        have hpadded := padded_stripNullMark text
        rw [hstrip] at hbase hpadded
        rw [hread]
        refine ⟨hbase, hname, ?_, ?_⟩
        · rintro rfl hnil
          rw [hnil] at hstrip
          exact hne (stripNullMark_eq_nil_iff.mp hstrip)
        · rw [← depthAfter_padded hpadded]
          exact hdepth

/-- What a type that was read is made of can stand inside other types. -/
theorem nested_of_mem_children_read {signature : List Char} {child : DartType}
    (h : child ∈ (read signature).children) : Nested child := by
  rcases read_of_mem_children h with
    ⟨scalar, rfl⟩ | ⟨found, slot, hfound, hslot, hslotNe, rfl⟩
  · trivial
  · rcases exists_of_slots_eq_some hfound with ⟨before, inner, _, _, rfl⟩
    exact nested_read hslotNe (isSome_depthAfter_of_mem_slots hslot)

/-- A text that closes its brackets is read as a type that leaves none open. -/
theorem unclosed_read {text : List Char} (h : depthAfter 0 text = some 0) :
    unclosed (read text) = 0 := by
  induction text using slot_induction with
  | step text ih =>
      rw [depthAfter_padded (padded_stripNullMark text)] at h
      refine unclosed_of_children ?_ ?_
      · intro child hchild
        rcases read_of_mem_children hchild with
          ⟨scalar, rfl⟩ | ⟨found, slot, hfound, hslot, _, rfl⟩
        · rfl
        · have hslotDepth : depthAfter 0 slot = some 0 := by
            rcases exists_of_slots_eq_some hfound with ⟨before, inner, hbase, hbefore, rfl⟩
            rw [hbase] at h
            have hinner := depthAfter_inner hbefore h
            rw [← List.append_nil inner] at hslot
            exact depthAfter_of_mem_slots_of_closed hinner hslot
          exact ih found slot hfound hslot hslotDepth
      · intro name nullable hread
        rcases read_eq_model_iff.mp hread with ⟨hstrip, _⟩
        rw [hstrip] at h
        rw [hread, unclosed, h]
        rfl

/-! ## Brackets that drift -/

/-- Closing brackets behind an argument list belong to it as long as brackets are open
inside it. -/
theorem slots_replicate_close (depth count : Nat) :
    slots depth (List.replicate count '>') = ⟨List.replicate (min depth count) '>', []⟩ := by
  induction count generalizing depth with
  | zero => simp [slots]
  | succ count ih =>
      cases depth with
      | zero => simp [List.replicate_succ, slots_zero_close]
      | succ depth =>
          have hstep : stepDepth (depth + 1) '>' = some depth := by simp [stepDepth]
          rw [List.replicate_succ, slots_cons_of_step hstep, ih, Nat.add_min_add_right,
            List.replicate_succ]
          rfl

/-- A text that leaves brackets open takes up closing brackets behind it. -/
theorem slots_append_closings {text : List Char} {depth : Nat}
    (h : depthAfter 0 text = some (depth + 1)) (extra : Nat) :
    ∃ taken, slots 0 (text ++ List.replicate (extra + 1) '>') =
      ⟨text ++ List.replicate (taken + 1) '>', []⟩ := by
  refine ⟨min depth extra, ?_⟩
  rw [slots_append h, slots_replicate_close, Nat.add_min_add_right]
  rfl

/-- The canonical text of a type that can stand inside others is a base with a null
mark. -/
theorem exists_base_text {type : DartType} (h : Nested type) :
    ∃ base, IsBase base type.nullable ∧ (type.nullable = false → base ≠ []) ∧
      type.text.toList = base ++ markChars type.nullable := by
  cases type with
  | scalar name nullable =>
      rcases isBase_scalar name nullable with ⟨hbase, hne⟩
      exact ⟨_, hbase, fun _ => hne, by simp [DartType.text, DartType.nullable, toList_nullMark]⟩
  | list element nullable =>
      refine ⟨_, isBase_list [] element.text.toList nullable, by simp, ?_⟩
      simp [DartType.text, DartType.nullable, toList_nullMark, listName]
  | map key value nullable =>
      refine ⟨_, isBase_map [] key.text.toList (' ' :: value.text.toList) nullable, by simp, ?_⟩
      simp [DartType.text, DartType.nullable, toList_nullMark, mapName]
  | model name nullable =>
      exact ⟨_, h.1, h.2.2.1, by simp [DartType.text, DartType.nullable, toList_nullMark]⟩

/-- The canonical text of a type that can stand inside others is not empty, and there
is a blank at neither end of it. -/
theorem trimmed_text {type : DartType} (h : Nested type) :
    type.text.toList ≠ [] ∧ Trimmed type.text.toList := by
  rcases exists_base_text h with ⟨base, hbase, hne, htext⟩
  rw [htext]
  cases hnullable : type.nullable with
  | false => simpa [markChars] using And.intro (hne hnullable) hbase.trimmed
  | true =>
      refine ⟨by simp [markChars], ?_⟩
      by_cases hnil : base = []
      · rw [hnil]
        decide
      · have hmark : Trimmed (markChars true) := by decide
        exact trimmed_append hnil (by simp [markChars]) hbase.trimmed.head hmark.last

/-- A text with closing brackets behind it is a base without a null mark. -/
theorem isBase_append_closings {text : List Char} (hne : text ≠ []) (htext : Trimmed text)
    (extra : Nat) : IsBase (text ++ List.replicate (extra + 1) '>') false := by
  have hlast : (List.replicate (extra + 1) '>').getLast? = some '>' := by
    simp [List.replicate_succ']
  refine ⟨trimmed_append hne (by simp) htext.head ?_, ?_⟩
  · intro c hc
    rw [hlast] at hc
    cases hc
    decide
  · rw [List.getLast?_append_of_ne_nil _ (by simp), hlast]
    simp

/-- A text with closing brackets behind it is read as it stands. -/
theorem read_append_closings {text : List Char} (hne : text ≠ []) (htext : Trimmed text)
    (extra : Nat) :
    read (text ++ List.replicate (extra + 1) '>') =
      Level.type ⟨shape (text ++ List.replicate (extra + 1) '>'), false⟩ := by
  refine read_padded (isBase_append_closings hne htext extra) ?_
  simpa [markChars] using padded_append_mark (text ++ List.replicate (extra + 1) '>') false

/-- A type whose canonical text drifts, whatever number of closing brackets stands
behind it. -/
def Drifts (type : DartType) : Prop :=
  ∀ extra, read (type.text.toList ++ List.replicate (extra + 1) '>') ≠ type

/-- A list type is not read from its canonical text if its element drifts. -/
theorem list_ne_of_drifts {element : DartType} (hnested : Nested element)
    (hopen : unclosed element ≠ 0) (hdrifts : Drifts element) (extra : Nat)
    (marked nullable : Bool) :
    Level.type ⟨shape (listName ++ '<' ::
        (element.text.toList ++ List.replicate (extra + 1) '>')), marked⟩ ≠
      .list element nullable := by
  rcases Nat.exists_eq_succ_of_ne_zero hopen with ⟨depth, hdepth⟩
  have htext := depthAfter_of_spells (spells_text element) hnested
  rw [hdepth] at htext
  rcases slots_append_closings htext extra with ⟨taken, hslots⟩
  rcases trimmed_text hnested with ⟨hne, htrimmed⟩
  have hslotNe : trim (element.text.toList ++ List.replicate (taken + 1) '>') ≠ [] := by
    rw [trim_eq_self (isBase_append_closings hne htrimmed taken).trimmed]
    simp
  have hshape := shape_list allBlank_nil
    (element.text.toList ++ List.replicate (extra + 1) '>')
  rw [List.append_nil, hslots] at hshape
  rw [hshape, Level.type, type_ofSlot_trim hslotNe]
  intro hlist
  rw [DartType.list.injEq] at hlist
  exact hdrifts taken hlist.1

/-- A map type is not read from its canonical text if its key leaves a bracket open: the
whole argument list becomes its value, and its key is implied. -/
theorem map_ne_of_open_key {key value : DartType} (hkey : Nested key)
    (hvalue : Nested value) (hopen : unclosed key ≠ 0) (extra : Nat)
    (marked nullable : Bool) :
    Level.type ⟨shape (mapName ++ '<' :: (key.text.toList ++ ',' :: ' ' ::
        (value.text.toList ++ List.replicate (extra + 1) '>'))), marked⟩ ≠
      .map key value nullable := by
  rcases Nat.exists_eq_succ_of_ne_zero hopen with ⟨depth, hdepth⟩
  have hspace : stepDepth (depth + 1) ' ' = some (depth + 1) := by simp [stepDepth]
  have hcomma : stepDepth (depth + 1) ',' = some (depth + 1) := by simp [stepDepth]
  have hkeyDepth := depthAfter_of_spells (spells_text key) hkey
  have hvalueDepth := depthAfter_add (depthAfter_of_spells (spells_text value) hvalue) (depth + 1)
  have hdepth' : depthAfter 0 (key.text.toList ++ ',' :: ' ' :: value.text.toList) =
      some (unclosed value + depth + 1) := by
    rw [depthAfter_append, hkeyDepth, hdepth, Option.bind_some, depthAfter_cons, hcomma,
      Option.bind_some, depthAfter_cons, hspace, Option.bind_some]
    rwa [Nat.zero_add] at hvalueDepth
  rcases slots_append_closings hdepth' extra with ⟨taken, hslots⟩
  simp only [List.append_assoc, List.cons_append] at hslots
  have hshape := shape_map_of_single allBlank_nil
    (congrArg Slots.others hslots)
  rw [List.append_nil] at hshape
  rw [hshape, Level.type]
  intro hmap
  rw [DartType.map.injEq] at hmap
  rw [← hmap.1] at hopen
  exact hopen rfl

/-- A map type is not read from its canonical text if its value drifts. -/
theorem map_ne_of_drifts {key value : DartType} (hkey : Nested key)
    (hvalue : Nested value) (hclosed : unclosed key = 0) (hopen : unclosed value ≠ 0)
    (hdrifts : Drifts value) (extra : Nat) (marked nullable : Bool) :
    Level.type ⟨shape (mapName ++ '<' :: (key.text.toList ++ ',' :: ' ' ::
        (value.text.toList ++ List.replicate (extra + 1) '>'))), marked⟩ ≠
      .map key value nullable := by
  rcases Nat.exists_eq_succ_of_ne_zero hopen with ⟨depth, hdepth⟩
  have hblank : AllBlank [' '] := by decide
  have hkeyDepth := depthAfter_of_spells (spells_text key) hkey
  have hvalueDepth := depthAfter_of_spells ((spells_text value).blank_append hblank) hvalue
  rw [hdepth] at hvalueDepth
  rw [hclosed] at hkeyDepth
  rcases slots_append_closings hvalueDepth extra with ⟨taken, htaken⟩
  rcases trimmed_text hvalue with ⟨hne, htrimmed⟩
  have hslots : (slots 0 (key.text.toList ++ ',' :: ' ' ::
      (value.text.toList ++ List.replicate (extra + 1) '>'))).others =
        [[' '] ++ (value.text.toList ++ List.replicate (taken + 1) '>')] := by
    rw [slots_append hkeyDepth, slots_zero_comma]
    rw [List.append_assoc, List.append_assoc] at htaken
    rw [List.singleton_append] at htaken
    rw [htaken]
    rfl
  have hslotNe : trim ([' '] ++ (value.text.toList ++ List.replicate (taken + 1) '>')) ≠ [] := by
    rw [trim_blank_append hblank,
      trim_eq_self (isBase_append_closings hne htrimmed taken).trimmed]
    simp
  have hshape := shape_map allBlank_nil hslots
  rw [List.append_nil] at hshape
  rw [hshape, Level.type, type_ofSlot_trim hslotNe, ← read_trim, trim_blank_append hblank,
    read_trim]
  intro hmap
  rw [DartType.map.injEq] at hmap
  exact hdrifts taken hmap.2.1

/-- A map type is not read from its canonical text if its key or its value leaves a
bracket open. -/
theorem map_ne_of_unclosed {key value : DartType} (hkey : Nested key)
    (hvalue : Nested value) (hopen : unclosed key + unclosed value ≠ 0)
    (hdrifts : unclosed value ≠ 0 → Drifts value) (extra : Nat) (marked nullable : Bool) :
    Level.type ⟨shape (mapName ++ '<' :: (key.text.toList ++ ',' :: ' ' ::
        (value.text.toList ++ List.replicate (extra + 1) '>'))), marked⟩ ≠
      .map key value nullable := by
  by_cases hclosed : unclosed key = 0
  · have hvalueOpen : unclosed value ≠ 0 := by omega
    exact map_ne_of_drifts hkey hvalue hclosed hvalueOpen (hdrifts hvalueOpen) extra marked
      nullable
  · exact map_ne_of_open_key hkey hvalue hclosed extra marked nullable

/-- A type that is read from its canonical text with closing brackets behind it has no
null mark. -/
theorem of_read_append_closings {type : DartType} (hnested : Nested type) {extra : Nat}
    (h : read (type.text.toList ++ List.replicate (extra + 1) '>') = type) :
    type.nullable = false ∧
      Level.type ⟨shape (type.text.toList ++ List.replicate (extra + 1) '>'), false⟩ = type := by
  rcases trimmed_text hnested with ⟨hne, htrimmed⟩
  rw [read_append_closings hne htrimmed] at h
  have hnullable := congrArg DartType.nullable h
  rw [nullable_type] at hnullable
  exact ⟨hnullable.symm, h⟩

/-- A type that leaves brackets open drifts. -/
theorem drifts_of_unclosed {type : DartType} (hnested : Nested type)
    (hopen : unclosed type ≠ 0) : Drifts type := by
  induction type with
  | scalar name nullable => exact absurd rfl hopen
  | list element nullable ih =>
      intro extra hread
      rcases of_read_append_closings hnested hread with ⟨hnullable, hlevel⟩
      obtain rfl : nullable = false := hnullable
      have hdrifts : Drifts element := ih hnested hopen
      refine list_ne_of_drifts (show Nested element from hnested) hopen hdrifts (extra + 1)
        false false ?_
      simpa [DartType.text, DartType.nullMark, listName, List.replicate_succ] using hlevel
  | map key value nullable ihKey ihValue =>
      intro extra hread
      rcases of_read_append_closings hnested hread with ⟨hnullable, hlevel⟩
      obtain rfl : nullable = false := hnullable
      refine map_ne_of_unclosed hnested.1 hnested.2 hopen (ihValue hnested.2) (extra + 1)
        false false ?_
      simpa [DartType.text, DartType.nullMark, mapName, List.replicate_succ] using hlevel
  | model name nullable =>
      intro extra hread
      rcases of_read_append_closings hnested hread with ⟨_, hlevel⟩
      rcases type_eq_model_iff.mp hlevel with ⟨hshape, _⟩
      rcases shape_eq_model_iff.mp hshape with ⟨hname, _⟩
      have hlength := congrArg List.length hname
      simp [DartType.text] at hlength

/-- A type is not read from its canonical text if something inside it leaves a bracket
open. -/
theorem read_text_ne {type child : DartType} (hnested : ∀ child ∈ type.children, Nested child)
    (hchild : child ∈ type.children) (hopen : unclosed child ≠ 0) :
    read type.text.toList ≠ type := by
  cases type with
  | scalar name nullable => simp [DartType.children] at hchild
  | list element nullable =>
      obtain rfl : child = element := by simpa [DartType.children] using hchild
      have hchildNested := hnested child hchild
      have hpadded := padded_append_mark
        (listName ++ [] ++ '<' :: (child.text.toList ++ ['>'])) nullable
      have htext : (DartType.list child nullable).text.toList =
          listName ++ [] ++ '<' :: (child.text.toList ++ ['>']) ++ markChars nullable := by
        simp [DartType.text, toList_nullMark, listName]
      rw [htext, read_padded (isBase_list _ _ _) hpadded, List.append_nil]
      exact list_ne_of_drifts hchildNested hopen (drifts_of_unclosed hchildNested hopen) 0
        nullable nullable
  | map key value nullable =>
      have hkey := hnested key (by simp [DartType.children])
      have hvalue := hnested value (by simp [DartType.children])
      have hpadded := padded_append_mark
        (mapName ++ [] ++ '<' :: (key.text.toList ++ ',' :: (' ' :: value.text.toList ++ ['>'])))
        nullable
      have htext : (DartType.map key value nullable).text.toList =
          mapName ++ [] ++ '<' :: (key.text.toList ++ ',' :: (' ' :: value.text.toList ++ ['>']))
            ++ markChars nullable := by
        simp [DartType.text, toList_nullMark, mapName]
      have hsum : unclosed key + unclosed value ≠ 0 := by
        simp only [DartType.children, List.mem_cons, List.not_mem_nil, or_false] at hchild
        rcases hchild with rfl | rfl <;> omega
      rw [htext, read_padded (isBase_map _ _ _ _) hpadded, List.append_nil]
      exact map_ne_of_unclosed hkey hvalue hsum (drifts_of_unclosed hvalue) 0 nullable nullable
  | model name nullable => simp [DartType.children] at hchild

/-! ## Stable signatures -/

/-- A type that can stand inside others leaves no bracket open exactly if the names of
its user models have as many opening as closing brackets. -/
theorem unclosed_eq_zero_iff {type : DartType} (h : Nested type) :
    unclosed type = 0 ↔
      ∀ name ∈ type.modelNames, name.toList.count '<' = name.toList.count '>' := by
  induction type with
  | scalar name nullable => simp [unclosed, DartType.modelNames]
  | list element nullable ih => exact ih h
  | map key value nullable ihKey ihValue =>
      rw [unclosed, Nat.add_eq_zero_iff, ihKey h.1, ihValue h.2, DartType.modelNames,
        List.forall_mem_append]
  | model name nullable =>
      rcases Option.isSome_iff_exists.mp h.2.2.2 with ⟨depth, hdepth⟩
      have hcount := count_of_depthAfter hdepth
      simp only [unclosed, hdepth, Option.getD_some, DartType.modelNames, List.mem_singleton,
        forall_eq]
      omega

/-- What was read is read again from its canonical text exactly if nothing inside it
leaves a bracket open. -/
theorem read_text_read_iff {signature : List Char} :
    read (read signature).text.toList = read signature ↔
      ∀ child ∈ (read signature).children, unclosed child = 0 := by
  constructor
  · intro hread child hchild
    by_contra hopen
    exact read_text_ne (fun _ => nested_of_mem_children_read) hchild hopen hread
  · intro hclosed
    refine read_of_spells (spells_text _) ⟨?_, ?_⟩
    · intro child hchild
      exact ⟨nested_of_mem_children_read hchild, hclosed child hchild⟩
    · intro name nullable hmodel
      rcases read_eq_model_iff.mp hmodel with ⟨hstrip, hname⟩
      have hbase := isBase_stripNullMark signature
      rw [hstrip] at hbase
      exact ⟨hbase, hname⟩

/-- Whether the first opening bracket of a signature is closed by a matching one. -/
def FirstBracketCloses (signature : List Char) : Prop :=
  ∃ before inside after, signature = before ++ '<' :: (inside ++ '>' :: after) ∧
    '<' ∉ before ∧ inside.count '<' = inside.count '>' ∧
      ∀ start, start <+: inside → start.count '>' ≤ start.count '<'

/-- What stands around a base in a signature holds no brackets. -/
theorem exists_eq_append_of_padded {base signature : List Char} {nullable : Bool}
    (h : Padded base nullable signature) :
    ∃ lead tail, signature = lead ++ base ++ tail ∧ '<' ∉ lead ∧ '>' ∉ tail := by
  have hblank : ∀ {text c}, AllBlank text → isBlank c = false → c ∉ text := by
    intro text c htext hc hmem
    rw [htext c hmem] at hc
    contradiction
  cases h with
  | unmarked hlead htail =>
      exact ⟨_, _, rfl, hblank hlead (by decide), hblank htail (by decide)⟩
  | marked hlead hgap htail =>
      refine ⟨_, _, List.append_assoc _ _ _, hblank hlead (by decide), ?_⟩
      simp [hblank hgap, hblank htail, isBlank, inRanges, blankRanges]

/-- The text between a bracket and the one that matches it, and the latter, close the
former. -/
theorem depthAfter_inside {inside : List Char}
    (hcount : inside.count '<' = inside.count '>')
    (hcloses : ∀ start, start <+: inside → start.count '>' ≤ start.count '<') :
    depthAfter 1 (inside ++ ['>']) = some 0 := by
  have hsome : (depthAfter 1 inside).isSome := by
    refine isSome_depthAfter_iff.mpr ⟨?_, ?_⟩
    · intro start hstart
      have hle := hcloses start hstart
      omega
    · intro start hstart
      have hle := hcloses start ((List.prefix_append _ _).trans hstart)
      omega
  rcases Option.isSome_iff_exists.mp hsome with ⟨depth, hdepth⟩
  have htotal := count_of_depthAfter hdepth
  obtain rfl : depth = 1 := by omega
  rw [depthAfter_append, hdepth]
  rfl

/-- If the first bracket of a signature is closed, every slot of its base closes all its
brackets. -/
theorem depthAfter_of_firstBracketCloses {signature slot : List Char} {found : Slots}
    (h : FirstBracketCloses signature)
    (hfound : (application (stripNullMark signature).1).slots = some found)
    (hslot : slot ∈ found.toList) : depthAfter 0 slot = some 0 := by
  rcases h with ⟨before, inside, after, hsignature, hbefore, hcount, hcloses⟩
  rcases exists_of_slots_eq_some hfound with ⟨first, inner, hbase, hfirst, rfl⟩
  obtain ⟨lead, tail, hpadded, hlead, htail⟩ :=
    exists_eq_append_of_padded (padded_stripNullMark signature)
  -- the argument list of the base begins where the signature's first bracket stands
  have hinner : inner ++ tail = inside ++ '>' :: after := by
    have hsame : before ++ '<' :: (inside ++ '>' :: after) =
        lead ++ first ++ '<' :: (inner ++ tail) := by
      rw [← hsignature, hpadded, hbase]
      simp
    have hdrop := congrArg (List.dropWhile (· != '<')) hsame
    rw [dropWhile_ne_open hbefore, dropWhile_ne_open (by simp [hlead, hfirst])] at hdrop
    exact (List.tail_eq_of_cons_eq hdrop).symm
  have hclosed : ∃ rest, inner = inside ++ ['>'] ++ rest := by
    rcases List.append_eq_append_iff.mp hinner with ⟨part, rfl, htailEq⟩ | ⟨part, rfl, hpart⟩
    · rw [htailEq] at htail
      simp at htail
    · cases part with
      | nil =>
          rw [← List.nil_append tail, ← hpart] at htail
          simp at htail
      | cons c rest =>
          obtain rfl : '>' = c := List.head_eq_of_cons_eq hpart
          exact ⟨rest, by simp⟩
  rcases hclosed with ⟨rest, rfl⟩
  exact depthAfter_of_mem_slots_of_closed (depthAfter_inside hcount hcloses) hslot

/-- If the first bracket of a signature is closed, nothing inside its type leaves a
bracket open. -/
theorem unclosed_of_firstBracketCloses {signature : List Char} {child : DartType}
    (h : FirstBracketCloses signature) (hchild : child ∈ (read signature).children) :
    unclosed child = 0 := by
  rcases read_of_mem_children hchild with
    ⟨scalar, rfl⟩ | ⟨found, slot, hfound, hslot, _, rfl⟩
  · rfl
  · exact unclosed_read (depthAfter_of_firstBracketCloses h hfound hslot)

/-- If a signature has no bracket, nothing inside its type leaves one open. -/
theorem unclosed_of_not_mem {signature : List Char} {child : DartType}
    (h : '<' ∉ signature) (hchild : child ∈ (read signature).children) :
    unclosed child = 0 := by
  rcases read_of_mem_children hchild with ⟨scalar, rfl⟩ | ⟨found, slot, hfound, _, _, rfl⟩
  · rfl
  · rcases exists_of_slots_eq_some hfound with ⟨before, inner, hbase, _, _⟩
    obtain ⟨lead, tail, hpadded, _, _⟩ :=
      exists_eq_append_of_padded (padded_stripNullMark signature)
    rw [hpadded, hbase] at h
    simp at h

/-- The canonical text of the type that a signature stands for is read as that type
again exactly if every user model below its outermost level has a name with as many
opening as closing brackets.  This is so for every signature without a bracket, and
for every signature whose first bracket is closed. -/
theorem typeOf_text_typeOf_iff (signature : String) :
    (typeOf (typeOf signature).text = typeOf signature ↔
        ∀ name ∈ (typeOf signature).innerModelNames,
          name.toList.count '<' = name.toList.count '>') ∧
      ('<' ∉ signature.toList → typeOf (typeOf signature).text = typeOf signature) ∧
        (FirstBracketCloses signature.toList →
          typeOf (typeOf signature).text = typeOf signature) := by
  refine ⟨?_, ?_, ?_⟩
  · have hchildren : ∀ child ∈ (read signature.toList).children,
        (unclosed child = 0 ↔
          ∀ name ∈ child.modelNames, name.toList.count '<' = name.toList.count '>') :=
      fun child hchild => unclosed_eq_zero_iff (nested_of_mem_children_read hchild)
    rw [typeOf, typeOf, read_text_read_iff, DartType.innerModelNames,
      List.forall_mem_flatMap]
    exact forall₂_congr hchildren
  · intro hopen
    exact read_text_read_iff.mpr fun child => unclosed_of_not_mem hopen
  · intro hcloses
    exact read_text_read_iff.mpr fun child => unclosed_of_firstBracketCloses hcloses

/-- A name that takes up a bracket of the list around it, and a malformed signature
whose first bracket is closed. -/
theorem typeOf_text_typeOf_foo :
    typeOf (typeOf "List<Foo<a").text ≠ typeOf "List<Foo<a" ∧
      FirstBracketCloses "Map <Foo<A, B>, int?>> <x".toList ∧
        typeOf (typeOf "Map <Foo<A, B>, int?>> <x").text =
          typeOf "Map <Foo<A, B>, int?>> <x" := by
  have hcloses : FirstBracketCloses "Map <Foo<A, B>, int?>> <x".toList := by
    refine ⟨"Map ".toList, "Foo<A, B>, int?".toList, "> <x".toList, by decide, by decide,
      by decide, ?_⟩
    intro start hstart
    have hall : ∀ start ∈ "Foo<A, B>, int?".toList.inits,
        start.count '>' ≤ start.count '<' := by decide
    exact hall start ((List.mem_inits _ _).mpr hstart)
  refine ⟨?_, hcloses, (typeOf_text_typeOf_iff _).2.2 hcloses⟩
  intro hstable
  have hfoo : typeOf "List<Foo<a" = .list (.model "Foo<a" false) false := by decide +kernel
  have hbalanced := (typeOf_text_typeOf_iff _).1.mp hstable
  rw [hfoo] at hbalanced
  exact absurd (hbalanced "Foo<a" (by decide)) (by decide)

end Memberwise.Signature
