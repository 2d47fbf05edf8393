import Memberwise.Proofs.Json.Reading

/-!
# Decoding

What a JSON text denotes, whichever shape it has: nested lists of truth values, numbers and
strings, in which the escapes of strings are undone.  Every spelling of a datum is decoded to it.

Main definitions:

- {lit}`Datum`: what JSON texts denote.
- {lit}`Spells`: whether a text is a spelling of a datum.
- {lit}`decode`: what a text denotes, if it is JSON.

Main results:

- Theorem {lit}`Spells.yields`: the reader takes a spelling to its datum.
- Theorem {lit}`decode_of_spells`: so does decoding.
- Theorem {lit}`decode_pretty`: a printed value is decoded to what it denotes.
-/

namespace Memberwise.Json

/-! ## Data -/

/-- What JSON texts denote.  A number is kept as it is written. -/
inductive Datum where
  | null
  | boolean (value : Bool)
  | number (text : List Char)
  | string (value : String)
  | array (elements : List Datum)
  | object (members : List (String × Datum))
deriving Repr

/-- Whether a text is a spelling of a datum. -/
inductive Spells : Datum → List Char → Prop where
  | null {text : List Char} (h : SpellsNull text) : Spells .null text
  | boolean {value : Bool} {text : List Char} (h : SpellsBoolean value text) :
      Spells (.boolean value) text
  | number {text : List Char} (h : IsNumber text) : Spells (.number text) text
  | string {value : String} {text : List Char} (h : SpellsString value text) :
      Spells (.string value) text
  | array {elements : List (Datum × List Char)} {text : List Char}
      (h : SpellsArray Eq (elements.map Prod.snd) text)
      (helements : ∀ element ∈ elements, Spells element.1 element.2) :
      Spells (.array (elements.map Prod.fst)) text
  | object {members : List (String × Datum × List Char)} {text : List Char}
      (h : SpellsObject SpellsString Eq (members.map fun member => (member.1, member.2.2)) text)
      (hmembers : ∀ member ∈ members, Spells member.2.1 member.2.2) :
      Spells (.object (members.map fun member => (member.1, member.2.1))) text

/-! ## Reading -/

/-- Reads a member of an object into those in front of it. -/
def datumMember (read : Reader Datum) (name : String) (members : List (String × Datum)) :
    Except Cause (Reader (List (String × Datum))) :=
  .ok fun text => do
    let (datum, rest) ← read text
    .ok (members ++ [(name, datum)], rest)

/-- Reads a datum whose arrays and objects are nested no deeper than given. -/
def readDatum : Nat → Reader Datum
  | 0, text => failWithin .endInValue text
  | depth + 1, text =>
      match skipBlanks text with
      | [] => failBefore .endInValue []
      | c :: rest =>
          if c = 'n' then do
            let (_, rest) ← word ['u', 'l', 'l'] rest
            .ok (.null, rest)
          else if c = 't' then do
            let (_, rest) ← word ['r', 'u', 'e'] rest
            .ok (.boolean true, rest)
          else if c = 'f' then do
            let (_, rest) ← word ['a', 'l', 's', 'e'] rest
            .ok (.boolean false, rest)
          else if c = '"' then do
            let (value, rest) ← readString rest
            .ok (.string value, rest)
          else if c = '[' then do
            let (elements, rest) ← readListBody (readDatum depth) rest
            .ok (.array elements, rest)
          else if c = '{' then do
            let (members, rest) ← readObjectBody (datumMember (readDatum depth)) [] rest
            .ok (.object members, rest)
          else do
            let (_, after) ← Numeral.scan .endInValue (c :: rest)
            .ok (.number ((c :: rest).take ((c :: rest).length - after.length)), after)

/-- What a text denotes, if it is JSON with nothing but blanks around it.  Nothing is nested deeper
than a text is long. -/
def decode (text : String) : Option Datum :=
  match readDatum text.toList.length text.toList with
  | .ok (datum, rest) => if skipBlanks rest = [] then some datum else none
  | .error _ => none

/-! ## Spellings that are read -/

/-- A datum begins like any value. -/
theorem Spells.begins {datum : Datum} {text : List Char} (h : Spells datum text) : Begins text := by
  cases h with
  | null h => exact (IsJson.null h).begins
  | boolean h => exact h.begins
  | number h => exact (IsJson.number h).begins
  | string h => exact h.begins
  | array h => exact Enclosed.begins h
  | object h => exact Enclosed.begins h

/-- A part of some things with commas between them is no longer than all of them. -/
theorem Separated.length_le_of_mem {α : Type} {spells : α → List Char → Prop} {list : List α}
    {text : List Char} (h : Separated spells list text) {a : α} (ha : a ∈ list) {size : Nat}
    (hsize : ∀ text, spells a text → size ≤ text.length) : size ≤ text.length := by
  induction h with
  | last h =>
      rw [List.mem_singleton] at ha
      subst ha
      exact hsize _ h
  | cons h _ ih =>
      rw [List.length_append, List.length_cons]
      rcases List.mem_cons.mp ha with rfl | ha
      · have hfirst := hsize _ h
        omega
      · have hrest := ih ha
        omega

/-- A part of some things between brackets is shorter than they are with the brackets. -/
theorem Enclosed.length_lt_of_mem {α : Type} {bracket : Bracket} {spells : α → List Char → Prop}
    {list : List α} {text : List Char} (h : Enclosed bracket spells list text) {a : α}
    (ha : a ∈ list) {size : Nat} (hsize : ∀ text, spells a text → size ≤ text.length) :
    size < text.length := by
  cases h with
  | empty => simp at ha
  | filled h =>
      have hinside := h.length_le_of_mem ha hsize
      simp only [List.length_cons, List.length_append, List.length_nil]
      omega

/-- An element of an array is shorter than the array. -/
theorem SpellsArray.length_lt {elements : List (List Char)} {text element : List Char}
    (h : SpellsArray Eq elements text) (helement : element ∈ elements) :
    element.length < text.length := by
  refine Enclosed.length_lt_of_mem h helement ?_
  rintro _ ⟨before, _, after, -, rfl, -, rfl⟩
  simp only [List.length_append]
  omega

/-- The value of a member of an object is shorter than the object. -/
theorem SpellsObject.length_lt {members : List (String × List Char)} {text : List Char}
    {member : String × List Char} (h : SpellsObject SpellsString Eq members text)
    (hmember : member ∈ members) : member.2.length < text.length := by
  refine Enclosed.length_lt_of_mem h hmember ?_
  rintro _ ⟨name, _, -, ⟨before, _, after, -, rfl, -, rfl⟩, rfl⟩
  simp only [List.length_append, List.length_cons]
  omega

/-- The members of an object are read behind those in front of them. -/
theorem gathers_datumMember {read : Reader Datum} {members : List (String × Datum × List Char)}
    (h : ∀ member ∈ members, Yields read member.2.2 (.ok member.2.1))
    (earlier : List (String × Datum)) :
    Gathers (datumMember read) earlier (members.map fun member => (member.1, member.2.2))
      (.ok (earlier ++ members.map fun member => (member.1, member.2.1))) := by
  induction members generalizing earlier with
  | nil =>
      rw [List.map_nil, List.map_nil, List.append_nil]
      exact .nil
  | cons member members ih =>
      have hread := (h member (by simp)).map fun datum => earlier ++ [(member.1, datum)]
      have hrest := ih (fun other hother => h other (by simp [hother]))
        (earlier ++ [(member.1, member.2.1)])
      rw [List.append_assoc] at hrest
      exact .next rfl hread hrest

/-- A text that begins like a value is not empty. -/
theorem Begins.exists_depth {text : List Char} (h : Begins text) {depth : Nat}
    (hdepth : text.length ≤ depth) : ∃ lower, depth = lower + 1 := by
  obtain ⟨c, tail, rfl, -⟩ := h
  refine Nat.exists_eq_add_one_of_ne_zero ?_
  rw [List.length_cons] at hdepth
  omega

/-- A spelling of a datum yields it, if enough nesting is allowed for. -/
theorem Spells.yields {datum : Datum} {text : List Char} (h : Spells datum text) {depth : Nat}
    (hdepth : text.length ≤ depth) : Yields (readDatum depth) text (.ok datum) := by
  induction h generalizing depth with
  | null h =>
      obtain ⟨depth, rfl⟩ := (Spells.null h).begins.exists_depth hdepth
      intro blanks rest hblanks _
      cases h
      refine located_eq_ok_iff.mpr ?_
      simp [readDatum, skipBlanks_blanks_append hblanks (by decide : isBlank 'n' = false)]
  | @boolean value text h =>
      obtain ⟨depth, rfl⟩ := (Spells.boolean h).begins.exists_depth hdepth
      intro blanks rest hblanks _
      cases h
      refine located_eq_ok_iff.mpr ?_
      cases value with
      | true => simp [readDatum, skipBlanks_blanks_append hblanks (by decide : isBlank 't' = false)]
      | false =>
        simp [readDatum, skipBlanks_blanks_append hblanks (by decide : isBlank 'f' = false)]
  | @number text h =>
      obtain ⟨depth, rfl⟩ := (Spells.number h).begins.exists_depth hdepth
      intro blanks rest hblanks hrest
      obtain ⟨numeral, hscan⟩ := h.exists_scan hrest .endInValue
      have hskip := (Spells.number h).begins.skipBlanks_append hblanks rest
      have htake : (text ++ rest).take ((text ++ rest).length - rest.length) = text := by
        rw [List.length_append, Nat.add_sub_cancel, List.take_left]
      obtain ⟨c, tail, rfl, hmem⟩ : ∃ c tail, text = c :: tail ∧
          c ∉ ['n', 't', 'f', '"', '[', '{', ']', '}'] := by
        obtain ⟨integer, fraction, exponent, hinteger, -, -, rfl⟩ := h
        obtain ⟨c, tail, rfl, -, -, hmem⟩ := hinteger.exists_cons_not_mem
        exact ⟨c, tail ++ (fraction ++ exponent), rfl, hmem⟩
      refine located_eq_ok_iff.mpr ?_
      unfold readDatum
      rw [hskip]
      simp only [List.cons_append] at hscan htake ⊢
      simp only [List.mem_cons, List.not_mem_nil, or_false, not_or] at hmem
      simpa [hmem, hscan] using htake
  | @string value text h =>
      obtain ⟨depth, rfl⟩ := (Spells.string h).begins.exists_depth hdepth
      intro blanks rest hblanks _
      obtain ⟨tail, rfl, hread⟩ := h.exists_readString
      refine located_eq_ok_iff.mpr ?_
      simp [readDatum, skipBlanks_blanks_append hblanks (by decide : isBlank '"' = false), hread]
  | @array elements text h helements ih =>
      obtain ⟨depth, rfl⟩ := (Spells.array h helements).begins.exists_depth hdepth
      intro blanks rest hblanks _
      have hshorter : ∀ element ∈ elements, element.2.length ≤ depth := by
        intro element helement
        have hlt := h.length_lt (List.mem_map_of_mem helement)
        omega
      have hcollects : Collects (readDatum depth) 0 (elements.map Prod.snd)
          (.ok (elements.map Prod.fst)) := by
        refine collects_of_forall ?_ 0
        rw [List.forall₂_map_left_iff, List.forall₂_map_right_iff, List.forall₂_same]
        exact fun element helement => ih element helement (hshorter element helement)
      have hbegins : ∀ element ∈ elements.map Prod.snd, Begins element :=
        List.forall_mem_map.mpr fun element helement => (helements element helement).begins
      obtain ⟨inside, rfl, hread⟩ := hcollects.located_readListBody hbegins h
      refine located_eq_ok_iff.mpr ?_
      have hbody := located_eq_ok_iff.mp (hread rest)
      simp [readDatum, skipBlanks_blanks_append hblanks (by decide : isBlank '[' = false), hbody]
  | @object members text h hmembers ih =>
      obtain ⟨depth, rfl⟩ := (Spells.object h hmembers).begins.exists_depth hdepth
      intro blanks rest hblanks _
      have hshorter : ∀ member ∈ members, member.2.2.length ≤ depth := by
        intro member hmember
        have hlt := h.length_lt (List.mem_map_of_mem hmember)
        dsimp only at hlt
        omega
      have hgathers := gathers_datumMember
        (fun member hmember => ih member hmember (hshorter member hmember)) []
      obtain ⟨inside, rfl, hread⟩ := hgathers.located_readObjectBody h
      refine located_eq_ok_iff.mpr ?_
      have hbody := located_eq_ok_iff.mp (hread rest)
      simp [readDatum, skipBlanks_blanks_append hblanks (by decide : isBlank '{' = false), hbody]

/-- A spelling of a datum is decoded to it, with blanks around it or without. -/
theorem decode_of_spells {datum : Datum} {text : String} (h : Padded Spells datum text.toList) :
    decode text = some datum := by
  obtain ⟨before, inside, after, hbefore, hinside, hafter, htext⟩ := h
  have hlength : inside.length ≤ text.toList.length := by
    rw [htext]
    simp only [List.length_append]
    omega
  have hread := (hinside.yields hlength).eq_ok hbefore (closes_of_isBlanks hafter)
  rw [← htext] at hread
  rw [decode, hread]
  exact if_pos hafter

/-! ## Values that are printed -/

mutual

/-- What a printed value denotes. -/
def Value.datum : Value → Datum
  | .boolean value => .boolean value
  | .string value => .string value
  | .array elements => .array (elementData elements)
  | .object members => .object (memberData members)

/-- What printed elements denote. -/
def elementData : List Value → List Datum
  | [] => []
  | element :: elements => element.datum :: elementData elements

/-- What printed members denote. -/
def memberData : List (String × Value) → List (String × Datum)
  | [] => []
  | member :: members => (member.1, member.2.datum) :: memberData members

end

/-- Elements denote what they do one by one. -/
theorem elementData_eq_map (elements : List Value) :
    elementData elements = elements.map Value.datum := by
  induction elements with
  | nil => rfl
  | cons element elements ih => rw [elementData, ih, List.map_cons]

/-- Members denote what they do one by one. -/
theorem memberData_eq_map (members : List (String × Value)) :
    memberData members = members.map fun member => (member.1, member.2.datum) := by
  induction members with
  | nil => rfl
  | cons member members ih => rw [memberData, ih, List.map_cons]

/-- An array of things denotes what they do. -/
theorem Spells.array_map {γ : Type} {list : List γ} {datum : γ → Datum} {chars : γ → List Char}
    {text : List Char} (h : SpellsArray Eq (list.map chars) text)
    (hlist : ∀ a ∈ list, Spells (datum a) (chars a)) : Spells (.array (list.map datum)) text := by
  have hspells := @Spells.array (list.map fun a => (datum a, chars a)) text
  simp only [List.map_map, Function.comp_def, List.forall_mem_map] at hspells
  exact hspells h hlist

/-- An object of things with names denotes what they do. -/
theorem Spells.object_map {γ : Type} {list : List (String × γ)} {datum : γ → Datum}
    {chars : γ → List Char} {text : List Char}
    (h : SpellsObject SpellsString Eq (list.map fun a => (a.1, chars a.2)) text)
    (hlist : ∀ a ∈ list, Spells (datum a.2) (chars a.2)) :
    Spells (.object (list.map fun a => (a.1, datum a.2))) text := by
  have hspells := @Spells.object (list.map fun a => (a.1, datum a.2, chars a.2)) text
  simp only [List.map_map, Function.comp_def, List.forall_mem_map] at hspells
  exact hspells h hlist

/-- The start of a line consists of blanks. -/
theorem isBlanks_newLine (depth : Nat) : IsBlanks (newLine depth) := by
  rw [IsBlanks, skipBlanks, newLine, List.dropWhile_cons_of_pos (by decide),
    List.dropWhile_eq_nil_iff]
  intro c hc
  rw [List.eq_of_mem_replicate hc]
  decide

/-- Elements that are printed have commas between them. -/
theorem separated_elements {depth : Nat} {blanks : List Char} (hblanks : IsBlanks blanks)
    (element : Value) (elements : List Value) :
    Separated (Padded Eq) ((element :: elements).map (Value.chars depth))
      (newLine depth ++ element.before depth (elementsBefore depth blanks elements)) := by
  induction elements generalizing element with
  | nil =>
      refine .last ⟨newLine depth, _, blanks, isBlanks_newLine depth, rfl, hblanks, ?_⟩
      rw [elementsBefore, Value.before_eq_append, Value.chars]
  | cons next elements ih =>
      rw [elementsBefore, Value.before_eq_append, ← List.append_assoc]
      refine .cons ⟨newLine depth, _, [], isBlanks_newLine depth, rfl, isBlanks_nil, ?_⟩ (ih next)
      rw [Value.chars, List.append_nil]

/-- Members that are printed have commas between them. -/
theorem separated_members {depth : Nat} {blanks : List Char} (hblanks : IsBlanks blanks)
    (member : String × Value) (members : List (String × Value)) :
    Separated (SpellsMember SpellsString Eq)
      ((member :: members).map fun member => (member.1, member.2.chars depth))
      (newLine depth ++ printedString member.1 ++ ':' :: ' ' ::
        member.2.before depth (membersBefore depth blanks members)) := by
  have hname : ∀ member : String × Value, Padded SpellsString member.1
      (newLine depth ++ printedString member.1) := fun member =>
    ⟨newLine depth, _, [], isBlanks_newLine depth, spellsString_printedString member.1,
      isBlanks_nil, by rw [List.append_nil]⟩
  have hvalue : ∀ (member : String × Value) {after : List Char}, IsBlanks after →
      Padded Eq (member.2.chars depth) (' ' :: (member.2.chars depth ++ after)) :=
    fun member after hafter => ⟨[' '], _, after, rfl, rfl, hafter, rfl⟩
  induction members generalizing member with
  | nil =>
      refine .last ⟨_, _, hname member, hvalue member hblanks, ?_⟩
      rw [membersBefore, Value.before_eq_append, Value.chars]
  | cons next members ih =>
      rw [membersBefore, Value.before_eq_append, ← List.cons_append, ← List.cons_append,
        ← List.append_assoc]
      refine .cons ⟨_, _, hname member, hvalue member isBlanks_nil, ?_⟩ (ih next)
      rw [Value.chars, List.append_nil]

/-- An array that is printed stands between brackets. -/
theorem chars_array (depth : Nat) (element : Value) (elements : List Value) :
    (Value.array (element :: elements)).chars depth =
      '[' :: (newLine (depth + 1) ++
        element.before (depth + 1) (elementsBefore (depth + 1) (newLine depth) elements) ++
          [']']) := by
  rw [Value.chars, Value.before, elementsBefore_eq_append, element.before_eq_append,
    elementsBefore_eq_append _ (newLine depth), element.before_eq_append _ (_ ++ newLine depth)]
  simp

/-- An object that is printed stands between braces. -/
theorem chars_object (depth : Nat) (member : String × Value) (members : List (String × Value)) :
    (Value.object (member :: members)).chars depth =
      '{' :: (newLine (depth + 1) ++ printedString member.1 ++ ':' :: ' ' ::
        member.2.before (depth + 1) (membersBefore (depth + 1) (newLine depth) members) ++
          ['}']) := by
  rw [Value.chars, Value.before, membersBefore_eq_append, member.2.before_eq_append,
    membersBefore_eq_append _ (newLine depth), member.2.before_eq_append _ (_ ++ newLine depth)]
  simp

mutual

/-- A value is printed as one of its spellings. -/
theorem Value.spells (depth : Nat) : (value : Value) → Spells value.datum (value.chars depth)
  | .boolean value => .boolean (by cases value <;> rfl)
  | .string value => .string (by
      rw [Value.chars, Value.before, List.append_nil]
      exact spellsString_printedString value)
  | .array [] => @Spells.array [] _ (.empty isBlanks_nil) (by simp)
  | .array (element :: elements) => by
      rw [Value.datum, elementData_eq_map, chars_array]
      exact .array_map (.filled (separated_elements (isBlanks_newLine depth) element elements))
        (elements_spell (depth + 1) (element :: elements))
  | .object [] => @Spells.object [] _ (.empty isBlanks_nil) (by simp)
  | .object (member :: members) => by
      rw [Value.datum, memberData_eq_map, chars_object]
      exact .object_map (.filled (separated_members (isBlanks_newLine depth) member members))
        (members_spell (depth + 1) (member :: members))

/-- Elements are printed as their spellings. -/
theorem elements_spell (depth : Nat) :
    (elements : List Value) → ∀ element ∈ elements, Spells element.datum (element.chars depth)
  | [] => by simp
  | element :: elements =>
      List.forall_mem_cons.mpr ⟨element.spells depth, elements_spell depth elements⟩

/-- Members are printed as spellings of their values. -/
theorem members_spell (depth : Nat) :
    (members : List (String × Value)) →
      ∀ member ∈ members, Spells member.2.datum (member.2.chars depth)
  | [] => by simp
  | member :: members =>
      List.forall_mem_cons.mpr ⟨member.2.spells depth, members_spell depth members⟩

end

/-- A printed value is decoded to what it denotes, in front of blanks. -/
theorem decode_pretty (value : Value) {blanks : String} (hblanks : IsBlanks blanks.toList) :
    decode (value.pretty ++ blanks) = some value.datum := by
  refine decode_of_spells
    ⟨[], value.chars 0, blanks.toList, isBlanks_nil, value.spells 0, hblanks, ?_⟩
  rw [String.toList_append, Value.pretty, String.toList_ofList, List.nil_append]

/-- Printed things are decoded to an array of what they denote, in front of blanks. -/
theorem decode_pretty_array {γ : Type} {value : γ → Value} (list : List γ) {blanks : String}
    (hblanks : IsBlanks blanks.toList) :
    decode ((Value.array (list.map value)).pretty ++ blanks) =
      some (.array (list.map (Value.datum ∘ value))) := by
  rw [decode_pretty _ hblanks, Value.datum, elementData_eq_map, List.map_map]

end Memberwise.Json
