import Memberwise.Proofs.Signature.Brackets
import Memberwise.Proofs.Text.Trimming
import Memberwise.Signature.Reading

/-!
# One level of a signature

What a single level of a signature is, stated through the texts that stand for
it: a base with blanks and a null mark around it, and a base with or without an
argument list.

Main results:

- Theorem {lit}`stripNullMark_padded`: blanks and the null mark around a base are
  what is taken off a signature.
- Theorem {lit}`padded_stripNullMark`: every signature is its base with blanks and a
  null mark around it.
- Theorem {lit}`shape_eq_model_iff`: which bases stand for a user model.
- Theorems {lit}`shape_list`, {lit}`shape_map` and {lit}`shape_map_of_single`: which
  slots are the arguments of a collection.
- Theorem {lit}`read_eq`: a signature is read level by level.
- Theorem {lit}`read_eq_model_iff`: which signatures stand for a user model.
-/

namespace Memberwise.Signature

open Memberwise.Text Memberwise.Dart

/-! ## Blanks and the null mark -/

/-- The texts that stand for a base, with or without a null mark: blanks on both
sides, and in front of the mark. -/
inductive Padded (base : List Char) : Bool → List Char → Prop where
  | unmarked {lead tail : List Char} (hlead : AllBlank lead) (htail : AllBlank tail) :
      Padded base false (lead ++ base ++ tail)
  | marked {lead gap tail : List Char} (hlead : AllBlank lead) (hgap : AllBlank gap)
      (htail : AllBlank tail) :
      Padded base true (lead ++ base ++ gap ++ '?' :: tail)

/-- A base has blanks at neither end, and ends in a question mark only where
another one marks it as nullable. -/
structure IsBase (base : List Char) (nullable : Bool) : Prop where
  trimmed : Trimmed base
  unmarked : nullable = false → base.getLast? ≠ some '?'

/-- A text that ends in a question mark loses it, and the blanks in front of it. -/
theorem stripNullMark_of_trim_eq_concat {signature text : List Char}
    (h : trim signature = text ++ ['?']) :
    stripNullMark signature = (trimEnd text, true) := by
  simp [stripNullMark, h]

/-- A text that does not end in a question mark is trimmed. -/
theorem stripNullMark_of_getLast?_ne {signature : List Char}
    (h : (trim signature).getLast? ≠ some '?') :
    stripNullMark signature = (trim signature, false) := by
  simp only [stripNullMark]

/-- Nothing is left of a signature without a null mark exactly if it is blank. -/
theorem stripNullMark_eq_nil_iff {signature : List Char} :
    stripNullMark signature = ([], false) ↔ trim signature = [] := by
  constructor
  · intro h
    by_cases hlast : (trim signature).getLast? = some '?'
    · rcases List.getLast?_eq_some_iff.mp hlast with ⟨text, htext⟩
      rw [stripNullMark_of_trim_eq_concat htext] at h
      simp at h
    · rw [stripNullMark_of_getLast?_ne hlast] at h
      exact congrArg Prod.fst h
  · intro h
    rw [stripNullMark_of_getLast?_ne (by simp [h]), h]

/-- Trimming a text with a null mark keeps the mark and the base. -/
theorem trim_marked {base lead gap tail : List Char} (hbase : Trimmed base)
    (hlead : AllBlank lead) (hgap : AllBlank gap) (htail : AllBlank tail) :
    ∃ inner, AllBlank inner ∧
      trim (lead ++ base ++ gap ++ '?' :: tail) = base ++ inner ++ ['?'] := by
  have hmark : ∀ c ∈ (['?'] : List Char).getLast?, isBlank c = false := by
    intro c hc
    cases hc
    decide
  by_cases hnil : base = []
  · subst hnil
    refine ⟨[], allBlank_nil, ?_⟩
    have hgap' : AllBlank (lead ++ gap) := hlead.append hgap
    have hquestion : Trimmed ['?'] := ⟨hmark, hmark⟩
    have hpad := trim_pad hgap' hquestion htail
    simpa using hpad
  · refine ⟨gap, hgap, ?_⟩
    have hinner : Trimmed (base ++ gap ++ ['?']) := by
      rw [List.append_assoc]
      refine trimmed_append hnil (by simp) hbase.head ?_
      intro c hc
      rw [List.getLast?_concat] at hc
      exact hmark c hc
    have hpad := trim_pad hlead hinner htail
    simpa using hpad

/-- Blanks and the null mark around a base are what is taken off a signature. -/
theorem stripNullMark_padded {base signature : List Char} {nullable : Bool}
    (hbase : IsBase base nullable) (h : Padded base nullable signature) :
    stripNullMark signature = (base, nullable) := by
  cases h with
  | unmarked hlead htail =>
      have htrim := trim_pad hlead hbase.trimmed htail
      rw [stripNullMark_of_getLast?_ne, htrim]
      rw [htrim]
      exact hbase.unmarked rfl
  | marked hlead hgap htail =>
      rcases trim_marked hbase.trimmed hlead hgap htail with ⟨inner, hinner, htrim⟩
      rw [stripNullMark_of_trim_eq_concat htrim, trimEnd_append hinner,
        trimEnd_eq_self hbase.trimmed.last]

/-- What is left of a signature is a base. -/
theorem isBase_stripNullMark (signature : List Char) :
    IsBase (stripNullMark signature).1 (stripNullMark signature).2 := by
  have htrimmed := trimmed_trim signature
  by_cases hlast : (trim signature).getLast? = some '?'
  · rcases List.getLast?_eq_some_iff.mp hlast with ⟨text, htext⟩
    rw [stripNullMark_of_trim_eq_concat htext]
    refine ⟨⟨?_, fun c hc => last_trimEnd hc⟩, by simp⟩
    intro c hc
    have hne : trimEnd text ≠ [] := by
      rintro hnil
      simp [hnil] at hc
    rw [head?_trimEnd hne] at hc
    refine htrimmed.head c ?_
    rw [htext]
    exact List.mem_head?_append_of_mem_head? hc
  · rw [stripNullMark_of_getLast?_ne hlast]
    exact ⟨htrimmed, fun _ => hlast⟩

/-- Every signature is its base with blanks and a null mark around it. -/
theorem padded_stripNullMark (signature : List Char) :
    Padded (stripNullMark signature).1 (stripNullMark signature).2 signature := by
  rcases exists_eq_pad_trim signature with ⟨lead, tail, hlead, htail, heq⟩
  by_cases hlast : (trim signature).getLast? = some '?'
  · rcases List.getLast?_eq_some_iff.mp hlast with ⟨text, htext⟩
    rcases exists_eq_trimEnd_append text with ⟨gap, hgap, hend⟩
    rw [stripNullMark_of_trim_eq_concat htext]
    have hsignature : signature = lead ++ trimEnd text ++ gap ++ '?' :: tail := by
      conv_lhs => rw [heq, htext, hend]
      simp
    conv => arg 3; rw [hsignature]
    exact Padded.marked hlead hgap htail
  · rw [stripNullMark_of_getLast?_ne hlast]
    conv => arg 3; rw [heq]
    exact Padded.unmarked hlead htail

/-- Blanks leave the depth as it is. -/
theorem depthAfter_blank {text : List Char} (h : AllBlank text) (depth : Nat) :
    depthAfter depth text = some depth :=
  depthAfter_plain (h.not_mem (by decide)) (h.not_mem (by decide)) (h.not_mem (by decide)) depth

/-- Blanks and the null mark leave the depth as it is. -/
theorem depthAfter_padded {base signature : List Char} {nullable : Bool}
    (h : Padded base nullable signature) (depth : Nat) :
    depthAfter depth signature = depthAfter depth base := by
  cases h with
  | unmarked hlead htail =>
      rw [depthAfter_append, depthAfter_append, depthAfter_blank hlead, Option.bind_some]
      cases depthAfter depth base with
      | none => rfl
      | some inner => exact depthAfter_blank htail inner
  | marked hlead hgap htail =>
      rw [List.append_assoc, depthAfter_append, depthAfter_append, depthAfter_blank hlead,
        Option.bind_some]
      cases depthAfter depth base with
      | none => rfl
      | some inner =>
          rw [Option.bind_some, depthAfter_append, depthAfter_blank hgap, Option.bind_some,
            depthAfter_cons]
          exact depthAfter_blank htail inner

/-! ## Argument lists -/

/-- In a text without a bracket, every character is another one. -/
theorem forall_ne_open {text : List Char} (h : '<' ∉ text) :
    ∀ c ∈ text, (c != '<') = true := by
  intro c hc
  rw [bne_iff_ne]
  rintro rfl
  exact h hc

/-- What stands behind the first bracket of a text. -/
theorem dropWhile_ne_open {before : List Char} (h : '<' ∉ before) (inner : List Char) :
    (before ++ '<' :: inner).dropWhile (· != '<') = '<' :: inner := by
  simp [List.dropWhile_append_of_pos (forall_ne_open h)]

/-- A base without a bracket has no argument list. -/
theorem application_of_not_mem {base : List Char} (h : '<' ∉ base) :
    application base = ⟨base, none⟩ := by
  have hdrop : base.dropWhile (· != '<') = [] :=
    List.dropWhile_eq_nil_iff.mpr (forall_ne_open h)
  simp [application, hdrop]

/-- The argument list of a base begins behind its first bracket. -/
theorem application_append {before : List Char} (h : '<' ∉ before)
    (inner : List Char) :
    application (before ++ '<' :: inner) = ⟨trim before, some (slots 0 inner)⟩ := by
  simp [application, dropWhile_ne_open h, List.takeWhile_append_of_pos (forall_ne_open h)]

/-- Slots are cut from what follows the first bracket. -/
theorem exists_of_slots_eq_some {base : List Char} {found : Slots}
    (h : (application base).slots = some found) :
    ∃ before inner, base = before ++ '<' :: inner ∧ '<' ∉ before ∧ found = slots 0 inner := by
  by_cases hopen : '<' ∈ base
  · rcases List.eq_append_cons_of_mem hopen with ⟨before, inner, rfl, hbefore⟩
    rw [application_append hbefore, Option.some.injEq] at h
    exact ⟨before, inner, rfl, hbefore, h.symm⟩
  · rw [application_of_not_mem hopen] at h
    contradiction

/-- An argument is a trimmed slot. -/
theorem exists_slot_of_mem_arguments {base argument : List Char}
    (h : argument ∈ arguments base) :
    ∃ found slot, (application base).slots = some found ∧ slot ∈ found.toList ∧
      argument = trim slot := by
  unfold arguments at h
  split at h
  · simp at h
  · rename_i found hfound
    rcases List.mem_map.mp h with ⟨slot, hslot, rfl⟩
    exact ⟨found, slot, hfound, hslot, rfl⟩

/-! ## Shapes -/

/-- The name before the argument list of a list type. -/
def listName : List Char := ['L', 'i', 's', 't']

/-- The name before the argument list of a map type. -/
def mapName : List Char := ['M', 'a', 'p']

/-- Whether a base names a user model: it is not the name of a scalar, and what
stands before its argument list is not the name of a collection. -/
structure IsModelName (base : List Char) : Prop where
  notScalar : Scalar.ofName? (String.ofList base) = none
  notList : (application base).head ≠ listName
  notMap : (application base).head ≠ mapName

/-- A base with a bracket is not the name of a scalar. -/
theorem ofName?_eq_none_of_mem {base : List Char} (h : '<' ∈ base) :
    Scalar.ofName? (String.ofList base) = none := by
  cases hname : Scalar.ofName? (String.ofList base) with
  | none => rfl
  | some scalar =>
      have heq := congrArg String.toList (Scalar.name_of_ofName?_eq_some hname)
      rw [String.toList_ofList] at heq
      have hnot : '<' ∉ scalar.name.toList := by cases scalar <;> decide
      exact absurd (heq ▸ h) hnot

/-- The name of a scalar stands for it. -/
theorem shape_scalar (scalar : Scalar) : shape scalar.name.toList = .scalar scalar := by
  simp [shape, Scalar.ofName?_name]

/-- A base stands for a user model exactly if it names one. -/
theorem shape_eq_model_iff {base name : List Char} :
    shape base = .model name ↔ name = base ∧ IsModelName base := by
  constructor
  · intro h
    unfold shape at h
    split at h
    · contradiction
    · rename_i hscalar
      simp only at h
      split_ifs at h with hlist hmap
      · split at h <;> contradiction
      · split at h <;> contradiction
      · cases h
        exact ⟨rfl, hscalar, hlist, hmap⟩
  · rintro ⟨rfl, hscalar, hlist, hmap⟩
    rw [listName] at hlist
    rw [mapName] at hmap
    simp [shape, hscalar, hlist, hmap]

/-- The head of a collection with blanks before its argument list. -/
theorem application_padded {name gap : List Char} (hname : Trimmed name)
    (hopen : '<' ∉ name) (hgap : AllBlank gap) (inner : List Char) :
    application (name ++ gap ++ '<' :: inner) = ⟨name, some (slots 0 inner)⟩ := by
  have hbefore : '<' ∉ name ++ gap := by
    rw [List.mem_append, not_or]
    exact ⟨hopen, hgap.not_mem (by decide)⟩
  rw [application_append hbefore, trim_append hgap, trim_eq_self hname]

/-- A list type has its first slot as its element. -/
theorem shape_list {gap : List Char} (hgap : AllBlank gap) (inner : List Char) :
    shape (listName ++ gap ++ '<' :: inner) =
      .list (Argument.ofSlot (trim (slots 0 inner).first)) := by
  have htrimmed : Trimmed listName := by decide
  have hopen : '<' ∈ listName ++ gap ++ '<' :: inner := by simp
  have happlication := application_padded htrimmed (by decide) hgap inner
  have hscalar := ofName?_eq_none_of_mem hopen
  simp only [shape, hscalar, arguments, happlication]
  rfl

/-- A map type with several slots has the first two as its key and its value. -/
theorem shape_map {gap : List Char} (hgap : AllBlank gap) {inner second : List Char}
    {others : List (List Char)} (hothers : (slots 0 inner).others = second :: others) :
    shape (mapName ++ gap ++ '<' :: inner) =
      .map (Argument.ofSlot (trim (slots 0 inner).first))
        (Argument.ofSlot (trim second)) := by
  have htrimmed : Trimmed mapName := by decide
  have hopen : '<' ∈ mapName ++ gap ++ '<' :: inner := by simp
  have happlication := application_padded htrimmed (by decide) hgap inner
  have hscalar := ofName?_eq_none_of_mem hopen
  simp only [shape, hscalar, arguments, happlication, Slots.toList, hothers]
  rfl

/-- A map type with one slot has it as its value. -/
theorem shape_map_of_single {gap : List Char} (hgap : AllBlank gap) {inner : List Char}
    (hothers : (slots 0 inner).others = []) :
    shape (mapName ++ gap ++ '<' :: inner) =
      .map (.implied .string) (Argument.ofSlot (trim (slots 0 inner).first)) := by
  have htrimmed : Trimmed mapName := by decide
  have hopen : '<' ∈ mapName ++ gap ++ '<' :: inner := by simp
  have happlication := application_padded htrimmed (by decide) hgap inner
  have hscalar := ofName?_eq_none_of_mem hopen
  simp only [shape, hscalar, arguments, happlication, Slots.toList, hothers]
  rfl

/-! ## Trees -/

/-- The type that an argument stands for. -/
def Argument.type : Argument → DartType
  | implied scalar => .scalar scalar false
  | written text => read text

/-- The type that a level with its arguments stands for. -/
def Level.type : Level → DartType
  | ⟨.scalar name, nullable⟩ => .scalar name nullable
  | ⟨.model name, nullable⟩ => .model (String.ofList name) nullable
  | ⟨.list element, nullable⟩ => .list element.type nullable
  | ⟨.map key value, nullable⟩ => .map key.type value.type nullable

/-- The mark of a level is the nullability of its type. -/
theorem nullable_type (shape : Shape) (nullable : Bool) :
    (Level.type ⟨shape, nullable⟩).nullable = nullable := by
  cases shape <;> rfl

/-- A signature is read level by level. -/
theorem read_eq (signature : List Char) :
    read signature =
      Level.type ⟨shape (stripNullMark signature).1, (stripNullMark signature).2⟩ := by
  rw [read]
  split <;> rename_i hlevel <;> refine Eq.trans ?_ (congrArg Level.type hlevel).symm
  · rfl
  · rfl
  · rename_i element nullable
    cases element <;> rfl
  · rename_i key value nullable
    cases key <;> cases value <;> rfl

/-- What is read from a base with blanks and a null mark around it. -/
theorem read_padded {base signature : List Char} {nullable : Bool}
    (hbase : IsBase base nullable) (h : Padded base nullable signature) :
    read signature = Level.type ⟨shape base, nullable⟩ := by
  rw [read_eq, stripNullMark_padded hbase h]

/-- Only a level that names a user model stands for one. -/
theorem type_eq_model_iff {shape : Shape} {nullable marked : Bool} {name : String} :
    Level.type ⟨shape, marked⟩ = .model name nullable ↔
      shape = .model name.toList ∧ marked = nullable := by
  cases shape with
  | model text =>
      change DartType.model (String.ofList text) marked = _ ↔ _
      rw [DartType.model.injEq, Shape.model.injEq, ← String.ofList_inj, String.ofList_toList]
  | scalar name => constructor <;> simp [Level.type]
  | list element => constructor <;> simp [Level.type]
  | map key value => constructor <;> simp [Level.type]

/-- A signature is read as a user model exactly if its base names one. -/
theorem read_eq_model_iff {signature : List Char} {name : String} {nullable : Bool} :
    read signature = .model name nullable ↔
      stripNullMark signature = (name.toList, nullable) ∧ IsModelName name.toList := by
  rw [read_eq, type_eq_model_iff, shape_eq_model_iff, Prod.ext_iff]
  constructor
  · rintro ⟨⟨hname, hmodel⟩, hmarked⟩
    exact ⟨⟨hname.symm, hmarked⟩, hname ▸ hmodel⟩
  · rintro ⟨⟨hname, hmarked⟩, hmodel⟩
    exact ⟨⟨hname.symm, hname ▸ hmodel⟩, hmarked⟩

/-- Trimming makes no difference to what is read. -/
theorem read_trim (signature : List Char) : read (trim signature) = read signature := by
  have hstrip : stripNullMark (trim signature) = stripNullMark signature := by
    rw [stripNullMark, stripNullMark, trim_trim]
  rw [read_eq, read_eq, hstrip]

/-- A slot that is not blank is read as it stands. -/
theorem type_ofSlot_trim {slot : List Char} (h : trim slot ≠ []) :
    (Argument.ofSlot (trim slot)).type = read slot := by
  have hwritten : Argument.ofSlot (trim slot) = .written (trim slot) := by
    unfold Argument.ofSlot
    split
    · contradiction
    · rfl
  rw [hwritten, Argument.type, read_trim]

end Memberwise.Signature
