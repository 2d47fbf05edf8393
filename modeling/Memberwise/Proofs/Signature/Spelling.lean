import Memberwise.Proofs.Signature.Levels

/-!
# Spellings of a type

The texts that spell a type, with blanks wherever a reader may skip them, and the
types that are read back from all of their spellings.

Main results:

- Theorem {lit}`depthAfter_of_spells`: a spelling leaves open what the names of its
  user models leave open.
- Theorem {lit}`read_of_spells`: a type is read back from each of its spellings if
  nothing inside it is left open.
- Theorem {lit}`typeOf_of_spells`: this holds for every type whose models are well
  named, and the canonical spellings of such types differ.
-/

namespace Memberwise.Signature

open Memberwise.Text Memberwise.Dart

/-! ## Spellings -/

/-- The texts that spell a type.  Blanks may stand around every type, between the
name of a collection and its argument list, and in front of every null mark. -/
inductive Spells : DartType → List Char → Prop where
  | scalar {name : Scalar} {nullable : Bool} {text : List Char}
      (htext : Padded name.name.toList nullable text) :
      Spells (.scalar name nullable) text
  | list {element : DartType} {nullable : Bool} {gap inner text : List Char}
      (helement : Spells element inner) (hgap : AllBlank gap)
      (htext : Padded (listName ++ gap ++ '<' :: (inner ++ ['>'])) nullable text) :
      Spells (.list element nullable) text
  | map {key value : DartType} {nullable : Bool} {gap left right text : List Char}
      (hkey : Spells key left) (hvalue : Spells value right) (hgap : AllBlank gap)
      (htext : Padded (mapName ++ gap ++ '<' :: (left ++ ',' :: (right ++ ['>'])))
        nullable text) :
      Spells (.map key value nullable) text
  | model {name : String} {nullable : Bool} {text : List Char}
      (htext : Padded name.toList nullable text) :
      Spells (.model name nullable) text

/-- The characters of a null mark. -/
def markChars (nullable : Bool) : List Char :=
  if nullable then ['?'] else []

theorem toList_nullMark (nullable : Bool) :
    (DartType.nullMark nullable).toList = markChars nullable := by
  cases nullable <;> rfl

/-- A base with its null mark stands for itself. -/
theorem padded_append_mark (base : List Char) (nullable : Bool) :
    Padded base nullable (base ++ markChars nullable) := by
  cases nullable with
  | false =>
      have h : Padded base false ([] ++ base ++ []) := .unmarked allBlank_nil allBlank_nil
      simpa [markChars] using h
  | true =>
      have h : Padded base true ([] ++ base ++ [] ++ '?' :: []) :=
        .marked allBlank_nil allBlank_nil allBlank_nil
      simpa [markChars] using h

/-- Blanks may stand in front of what is spelled. -/
theorem Spells.blank_append {type : DartType} {text lead : List Char}
    (h : Spells type text) (hlead : AllBlank lead) : Spells type (lead ++ text) := by
  have hpad : ∀ {base nullable text}, Padded base nullable text →
      Padded base nullable (lead ++ text) := by
    intro base nullable text hpadded
    cases hpadded with
    | unmarked hlead' htail =>
        rw [← List.append_assoc, ← List.append_assoc]
        exact .unmarked (hlead.append hlead') htail
    | marked hlead' hgap htail =>
        rw [← List.append_assoc, ← List.append_assoc, ← List.append_assoc]
        exact .marked (hlead.append hlead') hgap htail
  cases h with
  | scalar htext => exact .scalar (hpad htext)
  | list helement hgap htext => exact .list helement hgap (hpad htext)
  | map hkey hvalue hgap htext => exact .map hkey hvalue hgap (hpad htext)
  | model htext => exact .model (hpad htext)

/-- The canonical text of a type is one of its spellings. -/
theorem spells_text (type : DartType) : Spells type type.text.toList := by
  have hspace : AllBlank [' '] := by
    intro c hc
    rw [List.mem_singleton.mp hc]
    decide
  induction type with
  | scalar name nullable =>
      refine .scalar ?_
      simpa [DartType.text, toList_nullMark] using padded_append_mark name.name.toList nullable
  | list element nullable ih =>
      refine .list ih allBlank_nil ?_
      simpa [DartType.text, toList_nullMark, listName] using
        padded_append_mark (listName ++ '<' :: (element.text.toList ++ ['>'])) nullable
  | map key value nullable ihKey ihValue =>
      refine .map ihKey (ihValue.blank_append hspace) allBlank_nil ?_
      simpa [DartType.text, toList_nullMark, mapName] using
        padded_append_mark
          (mapName ++ '<' :: (key.text.toList ++ ',' :: ' ' :: (value.text.toList ++ ['>'])))
          nullable
  | model name nullable =>
      refine .model ?_
      simpa [DartType.text, toList_nullMark] using padded_append_mark name.toList nullable

/-! ## Types that can stand inside other types -/

/-- Whether each user model of a type is told apart from its surroundings: its name
is a base that names a model, it is not nothing at all, and it closes no bracket of
the type around it. -/
def Nested : DartType → Prop
  | .scalar _ _ => True
  | .list element _ => Nested element
  | .map key value _ => Nested key ∧ Nested value
  | .model name nullable =>
      IsBase name.toList nullable ∧ IsModelName name.toList ∧
        (nullable = false → name.toList ≠ []) ∧ (depthAfter 0 name.toList).isSome

/-- The number of brackets that the names of a type's user models leave open. -/
def unclosed : DartType → Nat
  | .scalar _ _ => 0
  | .list element _ => unclosed element
  | .map key value _ => unclosed key + unclosed value
  | .model name _ => (depthAfter 0 name.toList).getD 0

/-- The name of a scalar is a base, and no blank one. -/
theorem isBase_scalar (scalar : Scalar) (nullable : Bool) :
    IsBase scalar.name.toList nullable ∧ scalar.name.toList ≠ [] := by
  cases scalar <;>
    exact ⟨⟨by decide, fun _ => by decide⟩, by decide⟩

/-- A collection with its argument list is a base. -/
theorem isBase_collection {name : List Char} (hname : name ≠ [])
    (htrimmed : Trimmed name) (rest : List Char) (nullable : Bool) :
    IsBase (name ++ (rest ++ ['>'])) nullable := by
  have hclose : (name ++ (rest ++ ['>'])).getLast? = some '>' := by simp
  refine ⟨trimmed_append hname (by simp) htrimmed.head ?_, ?_⟩
  · intro c hc
    rw [List.getLast?_concat] at hc
    cases hc
    decide
  · rw [hclose]
    simp

/-- A list type with its argument list is a base. -/
theorem isBase_list (gap inner : List Char) (nullable : Bool) :
    IsBase (listName ++ gap ++ '<' :: (inner ++ ['>'])) nullable := by
  have hname : listName ≠ [] := by decide
  simpa using isBase_collection hname (by decide) (gap ++ '<' :: inner) nullable

/-- A map type with its argument list is a base. -/
theorem isBase_map (gap left right : List Char) (nullable : Bool) :
    IsBase (mapName ++ gap ++ '<' :: (left ++ ',' :: (right ++ ['>']))) nullable := by
  have hname : mapName ≠ [] := by decide
  simpa using isBase_collection hname (by decide) (gap ++ '<' :: (left ++ ',' :: right))
    nullable

/-- A base that is not empty, or that a null mark follows, is not blank. -/
theorem trim_ne_nil_of_padded {base text : List Char} {nullable : Bool}
    (hbase : IsBase base nullable) (hne : nullable = false → base ≠ [])
    (h : Padded base nullable text) : trim text ≠ [] := by
  intro hnil
  have hstrip := stripNullMark_eq_nil_iff.mpr hnil
  rw [stripNullMark_padded hbase h, Prod.mk.injEq] at hstrip
  exact hne hstrip.2 hstrip.1

/-- A spelling of a type that can stand inside other types is not blank. -/
theorem trim_ne_nil_of_spells {type : DartType} {text : List Char}
    (h : Spells type text) (hnested : Nested type) : trim text ≠ [] := by
  cases h with
  | scalar htext =>
      rcases isBase_scalar _ _ with ⟨hbase, hne⟩
      exact trim_ne_nil_of_padded hbase (fun _ => hne) htext
  | list helement hgap htext =>
      exact trim_ne_nil_of_padded (isBase_list _ _ _) (by simp) htext
  | map hkey hvalue hgap htext =>
      exact trim_ne_nil_of_padded (isBase_map _ _ _ _) (by simp) htext
  | model htext =>
      rcases hnested with ⟨hbase, _, hne, _⟩
      exact trim_ne_nil_of_padded hbase hne htext

/-- The blanks in front of an argument list leave the depth as it is. -/
theorem depthAfter_head {name gap : List Char} (hopen : '<' ∉ name) (hclose : '>' ∉ name)
    (hcomma : ',' ∉ name) (hgap : AllBlank gap) (depth : Nat) (rest : List Char) :
    depthAfter depth (name ++ gap ++ '<' :: rest) = depthAfter (depth + 1) rest := by
  rw [List.append_assoc, depthAfter_append, depthAfter_plain hopen hclose hcomma,
    Option.bind_some, depthAfter_append, depthAfter_blank hgap, Option.bind_some,
    depthAfter_cons]
  rfl

/-- A spelling leaves open what the names of its user models leave open. -/
theorem depthAfter_of_spells {type : DartType} {text : List Char}
    (h : Spells type text) (hnested : Nested type) :
    depthAfter 0 text = some (unclosed type) := by
  induction h with
  | scalar htext =>
      rename_i name nullable text
      rw [depthAfter_padded htext]
      exact depthAfter_plain (by cases name <;> decide) (by cases name <;> decide)
        (by cases name <;> decide) 0
  | list helement hgap htext ih =>
      rename_i element nullable gap inner text
      have hinner := depthAfter_add (ih hnested) 1
      rw [depthAfter_padded htext, depthAfter_head (by decide) (by decide) (by decide) hgap,
        depthAfter_append, hinner, Option.bind_some]
      simp [depthAfter_cons, stepDepth, unclosed]
  | map hkey hvalue hgap htext ihKey ihValue =>
      rename_i key value nullable gap left right text
      have hleft := depthAfter_add (ihKey hnested.1) 1
      have hright := depthAfter_add (ihValue hnested.2) (unclosed key + 1)
      have hcomma : stepDepth (unclosed key + 1) ',' = some (unclosed key + 1) := by
        simp [stepDepth]
      rw [Nat.zero_add] at hright
      rw [depthAfter_padded htext, depthAfter_head (by decide) (by decide) (by decide) hgap,
        depthAfter_append, hleft, Option.bind_some, depthAfter_cons, hcomma,
        Option.bind_some, depthAfter_append, hright, Option.bind_some]
      simp [depthAfter_cons, stepDepth, unclosed]
      omega
  | model htext =>
      rcases hnested with ⟨_, _, _, hsome⟩
      rcases Option.isSome_iff_exists.mp hsome with ⟨inner, hinner⟩
      rw [depthAfter_padded htext, unclosed, hinner]
      rfl

/-! ## Reading spellings -/

/-- Whether a type is read back from its spellings: what it is made of can stand
inside it and leaves no bracket open, and its own name, if it has one, names a user
model. -/
structure Readable (type : DartType) : Prop where
  children : ∀ child ∈ type.children, Nested child ∧ unclosed child = 0
  model : ∀ name nullable, type = .model name nullable →
    IsBase name.toList nullable ∧ IsModelName name.toList

/-- A type that can stand inside others and leaves no bracket open is readable. -/
theorem readable_of_nested {type : DartType} (hnested : Nested type)
    (hclosed : unclosed type = 0) : Readable type := by
  constructor
  · intro child hchild
    cases type with
    | scalar name nullable => simp [DartType.children] at hchild
    | list element nullable =>
        rw [DartType.children, List.mem_singleton] at hchild
        subst hchild
        exact ⟨hnested, hclosed⟩
    | map key value nullable =>
        rw [unclosed, Nat.add_eq_zero_iff] at hclosed
        simp only [DartType.children, List.mem_cons, List.not_mem_nil, or_false] at hchild
        rcases hchild with rfl | rfl
        · exact ⟨hnested.1, hclosed.1⟩
        · exact ⟨hnested.2, hclosed.2⟩
    | model name nullable => simp [DartType.children] at hchild
  · rintro name nullable rfl
    exact ⟨hnested.1, hnested.2.1⟩

/-- A type is read back from each of its spellings if nothing inside it is left
open. -/
theorem read_of_spells {type : DartType} {text : List Char} (h : Spells type text)
    (hreadable : Readable type) : read text = type := by
  induction h with
  | scalar htext =>
      rw [read_padded (isBase_scalar _ _).1 htext, shape_scalar]
      rfl
  | list helement hgap htext ih =>
      rename_i element nullable gap inner text
      rcases hreadable.children element (by simp [DartType.children]) with ⟨hnested, hclosed⟩
      have hdepth := depthAfter_of_spells helement hnested
      have hslots : slots 0 (inner ++ ['>']) = ⟨inner, []⟩ := by
        rw [slots_append hdepth, hclosed, slots_zero_close]
        simp [Slots.prepend]
      rw [read_padded (isBase_list _ _ _) htext, shape_list hgap, hslots,
        Level.type, type_ofSlot_trim (trim_ne_nil_of_spells helement hnested),
        ih (readable_of_nested hnested hclosed)]
  | map hkey hvalue hgap htext ihKey ihValue =>
      rename_i key value nullable gap left right text
      rcases hreadable.children key (by simp [DartType.children]) with ⟨hnestedKey, hclosedKey⟩
      obtain ⟨hnestedValue, hclosedValue⟩ :=
        hreadable.children value (by simp [DartType.children])
      have hdepthKey := depthAfter_of_spells hkey hnestedKey
      have hdepthValue := depthAfter_of_spells hvalue hnestedValue
      have hslots : slots 0 (left ++ ',' :: (right ++ ['>'])) = ⟨left, [right]⟩ := by
        rw [slots_append hdepthKey, hclosedKey, slots_zero_comma, slots_append hdepthValue,
          hclosedValue, slots_zero_close]
        simp [Slots.prepend, Slots.cut, Slots.toList]
      have hothers : (slots 0 (left ++ ',' :: (right ++ ['>']))).others = [right] := by
        rw [hslots]
      have hshape := shape_map hgap hothers
      rw [hslots] at hshape
      rw [read_padded (isBase_map _ _ _ _) htext, hshape, Level.type,
        type_ofSlot_trim (trim_ne_nil_of_spells hkey hnestedKey),
        type_ofSlot_trim (trim_ne_nil_of_spells hvalue hnestedValue),
        ihKey (readable_of_nested hnestedKey hclosedKey),
        ihValue (readable_of_nested hnestedValue hclosedValue)]
  | model htext =>
      rename_i name nullable text
      rcases hreadable.model name nullable rfl with ⟨hbase, hname⟩
      rw [read_padded hbase htext, shape_eq_model_iff.mpr ⟨rfl, hname⟩,
        Level.type, String.ofList_toList]

/-- The canonical text of a scalar tells the scalar and its nullability. -/
theorem typeOf_text_scalar (name : Scalar) (nullable : Bool) :
    typeOf (DartType.scalar name nullable).text = .scalar name nullable := by
  have hreadable : Readable (.scalar name nullable) :=
    readable_of_nested (show Nested (.scalar name nullable) from trivial) rfl
  exact read_of_spells (spells_text _) hreadable

/-! ## Well-named types -/

/-- Whether a name of a user model can be told from everything around it, wherever
it stands in a signature. -/
structure WellNamed (name : List Char) : Prop where
  ne_nil : name ≠ []
  trimmed : Trimmed name
  unmarked : name.getLast? ≠ some '?'
  notScalar : ∀ scalar : Scalar, name ≠ scalar.name.toList
  balanced : name.count '<' = name.count '>'
  /-- No prefix closes more brackets than it opens. -/
  closes : ∀ before, before <+: name → before.count '>' ≤ before.count '<'
  /-- Every comma stands inside some brackets. -/
  commas : ∀ before, before ++ [','] <+: name → before.count '>' < before.count '<'
  notList : trim (name.takeWhile (· != '<')) ≠ listName
  notMap : trim (name.takeWhile (· != '<')) ≠ mapName

namespace WellNamed

variable {name : List Char}

/-- A well-formed name closes all the brackets that it opens. -/
theorem depthAfter_eq_zero (h : WellNamed name) : depthAfter 0 name = some 0 :=
  depthAfter_eq_zero_iff.mpr ⟨h.balanced, h.closes, h.commas⟩

/-- What stands before the argument list of a base, trimmed. -/
theorem head_application (h : WellNamed name) :
    (application name).head = trim (name.takeWhile (· != '<')) := by
  unfold application
  split
  · rename_i hdrop
    have hsplit := name.takeWhile_append_dropWhile (p := (· != '<'))
    rw [hdrop, List.append_nil] at hsplit
    rw [hsplit, trim_eq_self h.trimmed]
  · rfl

/-- A well-formed name is a base that names a user model. -/
theorem isModelName (h : WellNamed name) : IsModelName name := by
  refine ⟨?_, ?_, ?_⟩
  · cases hscalar : Scalar.ofName? (String.ofList name) with
    | none => rfl
    | some scalar =>
        have heq := congrArg String.toList (Scalar.name_of_ofName?_eq_some hscalar)
        rw [String.toList_ofList] at heq
        exact absurd heq.symm (h.notScalar scalar)
  · rw [h.head_application]
    exact h.notList
  · rw [h.head_application]
    exact h.notMap

end WellNamed

/-- A type whose models are well named can stand inside others and leaves no bracket
open. -/
theorem nested_of_wellNamed {type : DartType}
    (h : ∀ name ∈ type.modelNames, WellNamed name.toList) :
    Nested type ∧ unclosed type = 0 := by
  induction type with
  | scalar name nullable => exact ⟨trivial, rfl⟩
  | list element nullable ih => exact ih h
  | map key value nullable ihKey ihValue =>
      rw [DartType.modelNames, List.forall_mem_append] at h
      rcases ihKey h.1 with ⟨hkey, hkeyClosed⟩
      rcases ihValue h.2 with ⟨hvalue, hvalueClosed⟩
      exact ⟨⟨hkey, hvalue⟩, by rw [unclosed, hkeyClosed, hvalueClosed]⟩
  | model name nullable =>
      have hname := h name (by simp [DartType.modelNames])
      refine ⟨⟨⟨hname.trimmed, fun _ => hname.unmarked⟩, hname.isModelName,
        fun _ => hname.ne_nil, ?_⟩, ?_⟩
      · simp [hname.depthAfter_eq_zero]
      · simp [unclosed, hname.depthAfter_eq_zero]

/-- A type whose models are well named is read back from every text that spells it,
its canonical one among them, so that no other such type has the same canonical
text. -/
theorem typeOf_of_spells {type : DartType}
    (hnames : ∀ name ∈ type.modelNames, WellNamed name.toList) :
    (∀ text : String, Spells type text.toList → typeOf text = type) ∧
      typeOf type.text = type ∧
        ∀ other : DartType, (∀ name ∈ other.modelNames, WellNamed name.toList) →
          other.text = type.text → other = type := by
  have hread : ∀ {type : DartType}, (∀ name ∈ type.modelNames, WellNamed name.toList) →
      ∀ text : String, Spells type text.toList → typeOf text = type := by
    intro type hnames text hspells
    rcases nested_of_wellNamed hnames with ⟨hnested, hclosed⟩
    exact read_of_spells hspells (readable_of_nested hnested hclosed)
  refine ⟨hread hnames, hread hnames _ (spells_text type), ?_⟩
  intro other hother htext
  calc
    other = typeOf other.text := (hread hother _ (spells_text other)).symm
    _ = typeOf type.text := by rw [htext]
    _ = type := hread hnames _ (spells_text type)

/-- A name with type arguments of its own, one level down, in a text with blanks of
several kinds at every place where they may stand. -/
theorem typeOf_of_spells_pair :
    let type := DartType.map (.scalar .string false)
      (.list (.model "Pair<A, B>" true) false) true
    let text := "\tMap\u00a0<  String,\nList <Pair<A, B> ? >\u3000> ? "
    (∀ name ∈ type.modelNames, WellNamed name.toList) ∧
      Spells type text.toList ∧ typeOf text = type := by
  intro type text
  have hsome : (depthAfter 0 "Pair<A, B>".toList).isSome := by decide
  rcases isSome_depthAfter_iff.mp hsome with ⟨hcloses, hcommas⟩
  have hnames : ∀ name ∈ type.modelNames, WellNamed name.toList := by
    intro name hname
    obtain rfl : name = "Pair<A, B>" := by
      simpa [type, DartType.modelNames] using hname
    exact
      { ne_nil := by decide
        trimmed := by decide
        unmarked := by decide
        notScalar := by intro scalar; cases scalar <;> decide
        balanced := by decide
        closes := by simpa using hcloses
        commas := by simpa using hcommas
        notList := by decide
        notMap := by decide }
  have hkey : Spells (.scalar .string false) ("  ".toList ++ "String".toList ++ []) :=
    .scalar (.unmarked (by decide) (by decide))
  have hmodel : Spells (.model "Pair<A, B>" true)
      ([] ++ "Pair<A, B>".toList ++ " ".toList ++ '?' :: " ".toList) :=
    .model (.marked (by decide) (by decide) (by decide))
  have hvalue := Spells.list hmodel (show AllBlank " ".toList by decide)
    (.unmarked (show AllBlank "\n".toList by decide) (show AllBlank "\u3000".toList by decide))
  have hspells : Spells type text.toList := by
    have hmap := Spells.map hkey hvalue (show AllBlank "\u00a0".toList by decide)
      (.marked (show AllBlank "\t".toList by decide) (show AllBlank " ".toList by decide)
        (show AllBlank " ".toList by decide))
    convert hmap using 1
    decide
  exact ⟨hnames, hspells, (typeOf_of_spells hnames).1 text hspells⟩

end Memberwise.Signature
