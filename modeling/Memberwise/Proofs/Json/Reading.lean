import Memberwise.Proofs.Json.Records
import Memberwise.Proofs.Json.Values

/-!
# Values that are asked for

A reader makes the same of a value wherever the value stands in a document: it comes to what the
text spells, or finds a fault at some place below.  Arrays and objects come to what their parts
come to, up to the first part with a fault, whose place is then known by the step into it.

Main definitions:

- {lit}`Yields`: what a reader makes of a text, wherever it stands.
- {lit}`Collects`: what it makes of the elements of an array.
- {lit}`Gathers`: what it makes of the members of an object.

Main results:

- Theorems {lit}`yields_readText`, {lit}`yields_readBoolean` and {lit}`Yields.readOptional`:
  values without parts.
- Theorem {lit}`Collects.yields`: an array yields what its elements do.
- Theorem {lit}`Gathers.located_readObjectBody`: an object yields what its members do.
-/

namespace Memberwise.Json

/-! ## Outcomes -/

section Outcomes

variable {α β : Type}

/-- What is found, or the place of the document that the fault concerns. -/
def located (result : Except Fault α) : Except Path α :=
  result.mapError Fault.path

/-- Something is found at any rate if it is found. -/
@[simp]
theorem located_eq_ok_iff {result : Except Fault α} {a : α} :
    located result = .ok a ↔ result = .ok a := by
  cases result <;> simp [located, Except.mapError]

/-- A place is found if it is the place of a fault. -/
theorem located_eq_error_iff {result : Except Fault α} {path : Path} :
    located result = .error path ↔ ∃ fault, result = .error fault ∧ fault.path = path := by
  cases result <;> simp [located, Except.mapError]

/-- What is made of something found leaves its place alone. -/
theorem located_bind (result : Except Fault α) (f : α → β) :
    located (result >>= fun a => .ok (f a)) = (located result).map f := by
  cases result <;> rfl

/-- What is found below a place of the document is found as it is. -/
@[simp]
theorem below_ok (segment : Segment) (a : α) : below segment (.ok a) = .ok a :=
  rfl

/-- Whether a reader comes to something on a text, wherever the text stands in a document. -/
def Yields (read : Reader α) (text : List Char) (outcome : Except Path α) : Prop :=
  ∀ ⦃blanks rest : List Char⦄, IsBlanks blanks → Closes rest →
    located (read (blanks ++ (text ++ rest))) = outcome.map fun a => (a, rest)

variable {read : Reader α} {text blanks rest : List Char}

/-- What is read of a text that yields a value. -/
theorem Yields.eq_ok {a : α} (h : Yields read text (.ok a)) (hblanks : IsBlanks blanks)
    (hrest : Closes rest) : read (blanks ++ (text ++ rest)) = .ok (a, rest) :=
  located_eq_ok_iff.mp (h hblanks hrest)

/-- The fault of a text that yields a place. -/
theorem Yields.exists_fault {path : Path} (h : Yields read text (.error path))
    (hblanks : IsBlanks blanks) (hrest : Closes rest) :
    ∃ fault, read (blanks ++ (text ++ rest)) = .error fault ∧ fault.path = path :=
  located_eq_error_iff.mp (h hblanks hrest)

/-- What is made of a value is made of it wherever it stands. -/
theorem Yields.map {outcome : Except Path α} (h : Yields read text outcome) (f : α → β) :
    Yields (fun text => do
      let (a, rest) ← read text
      .ok (f a, rest)) text (outcome.map f) := by
  intro blanks rest hblanks hrest
  refine (located_bind _ fun found : α × List Char => (f found.1, found.2)).trans ?_
  rw [h hblanks hrest]
  cases outcome <;> rfl

end Outcomes

/-! ## Values without parts -/

/-- The word for nothing is read behind its first letter. -/
@[simp]
theorem word_null (rest : List Char) :
    word ['u', 'l', 'l'] ('u' :: 'l' :: 'l' :: rest) = .ok ((), rest) :=
  word_append ['u', 'l', 'l'] rest

/-- The word for the truth is read behind its first letter. -/
@[simp]
theorem word_true (rest : List Char) :
    word ['r', 'u', 'e'] ('r' :: 'u' :: 'e' :: rest) = .ok ((), rest) :=
  word_append ['r', 'u', 'e'] rest

/-- The word for the contrary is read behind its first letter. -/
@[simp]
theorem word_false (rest : List Char) :
    word ['a', 'l', 's', 'e'] ('a' :: 'l' :: 's' :: 'e' :: rest) = .ok ((), rest) :=
  word_append ['a', 'l', 's', 'e'] rest

/-- A string begins with a quote. -/
theorem SpellsString.begins {value : String} {text : List Char} (h : SpellsString value text) :
    Begins text := by
  obtain ⟨tail, rfl, -⟩ := h.exists_readString
  exact ⟨_, _, rfl, by decide, by decide⟩

/-- A string yields what it spells. -/
theorem yields_readText {value : String} {text : List Char} (h : SpellsString value text) :
    Yields readText text (.ok value) := by
  intro blanks rest hblanks hrest
  have hskip := h.begins.skipBlanks_append hblanks rest
  obtain ⟨tail, rfl, hread⟩ := h.exists_readString
  rw [List.cons_append] at hskip
  simp only [readText, List.cons_append, hskip]
  exact located_eq_ok_iff.mpr (hread rest)

/-- The words for truth values begin with letters. -/
theorem SpellsBoolean.begins {value : Bool} {text : List Char} (h : SpellsBoolean value text) :
    Begins text :=
  (IsJson.boolean h).begins

/-- The word for a truth value yields it. -/
theorem yields_readBoolean {value : Bool} {text : List Char} (h : SpellsBoolean value text) :
    Yields readBoolean text (.ok value) := by
  intro blanks rest hblanks hrest
  refine located_eq_ok_iff.mpr ?_
  cases h
  cases value with
  | true => simp [readBoolean, skipBlanks_blanks_append hblanks (by decide : isBlank 't' = false)]
  | false => simp [readBoolean, skipBlanks_blanks_append hblanks (by decide : isBlank 'f' = false)]

/-- The word for nothing yields nothing. -/
theorem yields_readOptional_null {α : Type} (read : Reader α) {text : List Char}
    (h : SpellsNull text) : Yields (readOptional read) text (.ok none) := by
  intro blanks rest hblanks hrest
  refine located_eq_ok_iff.mpr ?_
  cases h
  simp [readOptional, skipBlanks_blanks_append hblanks (by decide : isBlank 'n' = false)]

/-- A value that may be null yields what it does elsewhere. -/
theorem Yields.readOptional {α : Type} {read : Reader α} {text : List Char}
    {outcome : Except Path α} (h : Yields read text outcome) (hbegins : Begins text)
    (hnull : text.head? ≠ some 'n') :
    Yields (readOptional read) text (outcome.map some) := by
  intro blanks rest hblanks hrest
  have hskip := hbegins.skipBlanks_append hblanks rest
  refine Eq.trans ?_ (h.map some isBlanks_nil hrest)
  unfold Json.readOptional
  rw [hskip]
  split
  · rename_i more heq
    obtain ⟨c, tail, rfl, -⟩ := hbegins
    cases heq
    exact absurd rfl hnull
  · rfl

/-- A value that may be null, and is not spelled like null, yields what it spells. -/
theorem yields_readOptional {α : Type} {read : Reader α} {spells : α → List Char → Prop}
    {value : Option α} {text : List Char} (h : SpellsOptional spells value text)
    (hread : ∀ a, spells a text → Yields read text (.ok a))
    (hbegins : ∀ a, spells a text → Begins text ∧ text.head? ≠ some 'n') :
    Yields (readOptional read) text (.ok value) := by
  cases value with
  | none => exact yields_readOptional_null read h
  | some a =>
      obtain ⟨hbegins, hnull⟩ := hbegins a h
      exact (hread a h).readOptional hbegins hnull

/-- A string that may be null yields what it spells. -/
theorem yields_readOptional_readText {value : Option String} {text : List Char}
    (h : SpellsOptional SpellsString value text) :
    Yields (readOptional readText) text (.ok value) := by
  refine yields_readOptional h (fun _ => yields_readText) ?_
  intro a htext
  refine ⟨htext.begins, ?_⟩
  obtain ⟨tail, rfl, -⟩ := htext.exists_readString
  simp

/-- A truth value that may be null yields what it spells. -/
theorem yields_readOptional_readBoolean {value : Option Bool} {text : List Char}
    (h : SpellsOptional SpellsBoolean value text) :
    Yields (readOptional readBoolean) text (.ok value) := by
  refine yields_readOptional h (fun _ => yields_readBoolean) ?_
  intro a htext
  refine ⟨htext.begins, ?_⟩
  cases htext
  cases a <;> simp

/-! ## Values of another kind -/

/-- An integer begins with neither a blank nor a closing bracket. -/
theorem IsInteger.begins {text : List Char} (h : IsInteger text) : Begins text := by
  obtain ⟨c, tail, rfl, -, hblank, hmem⟩ := h.exists_cons_not_mem
  exact ⟨c, tail, rfl, hblank, fun hclosing => hmem (by simp_all)⟩

/-- An integer in the place of something else is at fault itself. -/
theorem located_mismatch_integer {α : Type} (expected : String) {text rest : List Char}
    (h : IsInteger text) (hrest : Closes rest) :
    located (mismatch expected (text ++ rest) : Except Fault (α × List Char)) = .error [] := by
  have hnumber : IsNumber text := ⟨text, [], [], h, .absent, .absent, by simp⟩
  obtain ⟨numeral, hscan⟩ := hnumber.exists_scan hrest .endInValue
  obtain ⟨c, tail, rfl, hc, hblank, hmem⟩ := h.exists_cons_not_mem
  have hskip := skipBlanks_blanks_append isBlanks_nil hblank (tail ++ rest)
  obtain ⟨hn, ht, hf, -⟩ : c ≠ 'n' ∧ c ≠ 't' ∧ c ≠ 'f' ∧ c ∉ ['"', '[', '{', ']', '}'] := by
    simpa using hmem
  rw [List.cons_append] at hscan ⊢
  unfold mismatch
  rw [← List.nil_append (c :: _), hskip]
  dsimp only
  rw [if_neg hn, if_neg ht, if_neg hf, if_pos hc, readNumber, hscan, ok_bind]
  dsimp only
  cases hvalue : numeral.evaluate rest with
  | error fault => exact congrArg Except.error (path_of_evaluate_eq_error hvalue)
  | ok found => rfl

/-- A truth value in the place of something else is at fault itself. -/
theorem located_mismatch_boolean {α : Type} (expected : String) {value : Bool}
    {text : List Char} (h : SpellsBoolean value text) (rest : List Char) :
    located (mismatch expected (text ++ rest) : Except Fault (α × List Char)) = .error [] := by
  cases h
  cases value <;> simp [mismatch, skipBlanks, isBlank, located, Except.mapError, Fault.before]

/-- A string in the place of something else is at fault itself. -/
theorem located_mismatch_string {α : Type} (expected : String) {value : String}
    {text : List Char} (h : SpellsString value text) (rest : List Char) :
    located (mismatch expected (text ++ rest) : Except Fault (α × List Char)) = .error [] := by
  obtain ⟨tail, rfl, hread⟩ := h.exists_readString
  have hskip := skipBlanks_blanks_append isBlanks_nil (by decide : isBlank '"' = false)
    (tail ++ rest)
  unfold mismatch
  rw [List.cons_append, ← List.nil_append ('"' :: _), hskip]
  simp [hread, located, Except.mapError, Fault.before]

/-! ## Arrays -/

section Arrays

variable {α : Type}

/-- What a reader makes of the elements of an array, from an index on: it stops at the first
element with a fault. -/
inductive Collects (read : Reader α) :
    Nat → List (List Char) → Except Path (List α) → Prop where
  | nil {index : Nat} : Collects read index [] (.ok [])
  | next {index : Nat} {element : List Char} {elements : List (List Char)} {a : α}
      {outcome : Except Path (List α)} (h : Yields read element (.ok a))
      (hmore : Collects read (index + 1) elements outcome) :
      Collects read index (element :: elements) (outcome.map (a :: ·))
  | refused {index : Nat} {element : List Char} {elements : List (List Char)} {path : Path}
      (h : Yields read element (.error path)) :
      Collects read index (element :: elements) (.error (.element index :: path))

/-- What is made of an array in front of one of its elements. -/
theorem readElements_element {read : Reader α} {bound index : Nat}
    {front blanks element rest : List Char} (hbegins : Begins element) (hblanks : IsBlanks blanks)
    (hfront : nextElement (index == 0) front = nextElement true (blanks ++ (element ++ rest))) :
    readElements read (bound + 1) index front = (do
      let (value, rest) ← below (.element index) (read (element ++ rest))
      let (values, rest) ← readElements read bound (index + 1) rest
      .ok (value :: values, rest)) := by
  have hskip := hbegins.skipBlanks_append hblanks rest
  obtain ⟨c, tail, rfl, -, hc⟩ := hbegins
  obtain ⟨hsquare, -⟩ : c ≠ ']' ∧ c ≠ '}' := by simpa using hc
  have hnext : nextElement (index == 0) front = .ok (true, c :: tail ++ rest) := by
    rw [hfront]
    unfold nextElement
    rw [hskip, List.cons_append]
    dsimp only
    rw [if_neg hsquare, if_pos rfl]
  rw [readElements, hnext, ok_bind]
  rfl

/-- An element of an array stands in front of the blanks behind it, and then of the others. -/
theorem Separated.exists_element {element : List Char} {elements : List (List Char)}
    {inside : List Char} (h : Separated (Padded Eq) (element :: elements) inside) :
    ∃ before after more, IsBlanks before ∧ IsBlanks after ∧
      inside = before ++ (element ++ (after ++ more)) ∧ (∀ rest, Closes (more ++ ']' :: rest)) ∧
      (elements = [] ∧ more = [] ∨
        ∃ others, more = ',' :: others ∧ Separated (Padded Eq) elements others) := by
  cases h with
  | last h =>
      obtain ⟨before, _, after, hbefore, rfl, hafter, rfl⟩ := h
      exact ⟨before, after, [], hbefore, hafter, by simp, closes_closing .square, .inl ⟨rfl, rfl⟩⟩
  | cons h hmore =>
      obtain ⟨before, _, after, hbefore, rfl, hafter, rfl⟩ := h
      exact ⟨before, after, _, hbefore, hafter, by simp, fun _ => closes_comma _,
        .inr ⟨_, rfl, hmore⟩⟩

/-- Behind a comma, an element is looked for as at the start of an array. -/
theorem nextElement_comma {elements : List (List Char)} {inside blanks : List Char}
    (h : Separated (Padded Eq) elements inside) (hbegins : ∀ element ∈ elements, Begins element)
    (hblanks : IsBlanks blanks) (rest : List Char) :
    nextElement false (blanks ++ ',' :: (inside ++ rest)) = nextElement true (inside ++ rest) := by
  obtain ⟨element, helement, _, more, ⟨before, _, after, hbefore, rfl, -, rfl⟩, rfl⟩ :=
    h.exists_first
  have hskip := (hbegins element helement).skipBlanks_append hbefore (after ++ (more ++ rest))
  obtain ⟨c, tail, rfl, -, hc⟩ := hbegins element helement
  obtain ⟨hsquare, -⟩ : c ≠ ']' ∧ c ≠ '}' := by simpa using hc
  have hcomma := skipBlanks_blanks_append hblanks (by decide : isBlank ',' = false)
  simp only [List.append_assoc, List.cons_append] at hskip ⊢
  simp [nextElement, hcomma, hskip, hsquare]

/-- The elements of an array are read one by one, from where the first of them is looked for. -/
theorem Collects.located_readElements {read : Reader α} {index : Nat}
    {elements : List (List Char)} {outcome : Except Path (List α)}
    (h : Collects read index elements outcome) (hbegins : ∀ element ∈ elements, Begins element)
    {inside : List Char} (hinside : Separated (Padded Eq) elements inside) {bound : Nat}
    (hbound : elements.length < bound) {front rest : List Char}
    (hfront : nextElement (index == 0) front = nextElement true (inside ++ ']' :: rest)) :
    located (readElements read bound index front) = outcome.map fun list => (list, rest) := by
  obtain ⟨bound, rfl⟩ := Nat.exists_eq_add_one_of_ne_zero (by omega : bound ≠ 0)
  induction h generalizing inside bound front with
  | nil => nomatch hinside
  | @next index element elements a outcome h hmore ih =>
      obtain ⟨before, after, more, hbefore, hafter, rfl, hcloses, hothers⟩ :=
        hinside.exists_element
      obtain ⟨bound, rfl⟩ := Nat.exists_eq_add_one_of_ne_zero
        (by simp only [List.length_cons] at hbound; omega : bound ≠ 0)
      have hread := h.eq_ok isBlanks_nil ((hcloses rest).blanks_append hafter)
      have hrest : located (readElements read (bound + 1) (index + 1)
          (after ++ (more ++ ']' :: rest))) = outcome.map fun list => (list, rest) := by
        rcases hothers with ⟨rfl, rfl⟩ | ⟨others, rfl, hothers⟩
        · cases hmore
          exact located_eq_ok_iff.mpr (readElements_closing read hafter bound (index + 1) rest)
        · have hbegins : ∀ element ∈ elements, Begins element :=
            fun element helement => hbegins element (by simp [helement])
          refine ih hbegins hothers ?_ bound (by simpa using hbound)
          exact nextElement_comma hothers hbegins hafter (']' :: rest)
      simp only [List.append_assoc] at hfront
      rw [readElements_element (hbegins element (by simp)) hbefore hfront, ← List.nil_append
        (element ++ _), hread, below_ok, ok_bind]
      refine (located_bind _ fun found : List α × List Char => (a :: found.1, found.2)).trans ?_
      rw [hrest]
      cases outcome <;> rfl
  | @refused index element elements path h =>
      obtain ⟨before, after, more, hbefore, hafter, rfl, hcloses, -⟩ := hinside.exists_element
      obtain ⟨fault, hread, rfl⟩ :=
        h.exists_fault isBlanks_nil ((hcloses rest).blanks_append hafter)
      simp only [List.append_assoc] at hfront
      rw [readElements_element (hbegins element (by simp)) hbefore hfront, ← List.nil_append
        (element ++ _), hread]
      rfl

/-- The elements of an array yield, from behind its opening bracket, what they do one by one. -/
theorem Collects.located_readListBody {read : Reader α} {elements : List (List Char)}
    {outcome : Except Path (List α)} (h : Collects read 0 elements outcome)
    (hbegins : ∀ element ∈ elements, Begins element) {text : List Char}
    (htext : SpellsArray Eq elements text) :
    ∃ inside, text = '[' :: inside ∧ ∀ rest,
      located (readListBody read (inside ++ rest)) = outcome.map fun list => (list, rest) := by
  cases htext with
  | empty hblanks =>
      refine ⟨_, rfl, ?_⟩
      intro rest
      cases h
      rw [List.append_assoc]
      exact located_eq_ok_iff.mpr (readElements_closing read hblanks _ 0 rest)
  | filled hinside =>
      rename_i inside
      refine ⟨_, rfl, ?_⟩
      intro rest
      have hlength := hinside.length_le
      rw [List.append_assoc]
      refine h.located_readElements hbegins hinside ?_ rfl
      simp only [List.length_append, List.length_cons]
      omega

/-- An array yields what its elements do. -/
theorem Collects.yields {read : Reader α} {elements : List (List Char)}
    {outcome : Except Path (List α)} (h : Collects read 0 elements outcome)
    (hbegins : ∀ element ∈ elements, Begins element) {text : List Char}
    (htext : SpellsArray Eq elements text) : Yields (readList read) text outcome := by
  obtain ⟨inside, rfl, hread⟩ := h.located_readListBody hbegins htext
  intro blanks rest hblanks _
  rw [readList, List.cons_append, skipBlanks_blanks_append hblanks (by decide)]
  exact hread rest

/-- Elements that are all read are collected. -/
theorem collects_of_forall {read : Reader α} {elements : List (List Char)} {list : List α}
    (h : List.Forall₂ (fun a element => Yields read element (.ok a)) list elements)
    (index : Nat) : Collects read index elements (.ok list) := by
  induction h generalizing index with
  | nil => exact .nil
  | cons ha _ ih => exact .next ha (ih (index + 1))

/-- The elements of an array are collected if each is read to what it spells. -/
theorem SpellsArray.exists_collects {read : Reader α} {spells : α → List Char → Prop}
    {list : List α} {text : List Char} (h : SpellsArray spells list text)
    (hread : ∀ a element, spells a element → Yields read element (.ok a))
    (hbegins : ∀ a element, spells a element → Begins element) :
    ∃ elements, SpellsArray Eq elements text ∧ (∀ element ∈ elements, Begins element) ∧
      Collects read 0 elements (.ok list) := by
  obtain ⟨elements, helements, htext⟩ := h.exists_texts
  refine ⟨elements, htext, ?_, collects_of_forall (helements.imp hread) 0⟩
  clear h htext
  induction helements with
  | nil => simp
  | cons ha _ ih => exact List.forall_mem_cons.mpr ⟨hbegins _ _ ha, ih⟩

/-- An element with a fault behind elements that are read is found at its index. -/
theorem collects_refused {read : Reader α} {before after : List (List Char)}
    {element : List Char} {path : Path}
    (hbefore : ∀ earlier ∈ before, ∃ a, Yields read earlier (.ok a))
    (h : Yields read element (.error path)) (index : Nat) :
    Collects read index (before ++ element :: after)
      (.error (.element (index + before.length) :: path)) := by
  induction before generalizing index with
  | nil => exact .refused h
  | cons earlier before ih =>
      obtain ⟨a, ha⟩ := hbefore earlier (by simp)
      have hrest := ih (fun other hother => hbefore other (by simp [hother])) (index + 1)
      rw [List.length_cons, Nat.add_comm before.length, ← Nat.add_assoc]
      exact .next ha hrest

/-- An array with one wrong element has its fault there. -/
theorem SpellsArrayBut.exists_collects {read : Reader α} {others wrong : List Char → Prop}
    {index : Nat} {text : List Char} {path : Path} (h : SpellsArrayBut others wrong index text)
    (hothers : ∀ other, others other → (∃ a, Yields read other (.ok a)) ∧ Begins other)
    (hwrong : ∀ element, wrong element → Yields read element (.error path) ∧ Begins element) :
    ∃ elements, SpellsArray Eq elements text ∧ (∀ element ∈ elements, Begins element) ∧
      Collects read 0 elements (.error (.element index :: path)) := by
  obtain ⟨before, element, after, htext, rfl, hvalid, helement⟩ := h
  refine ⟨before ++ element :: after, htext, ?_, ?_⟩
  · intro other hother
    simp only [List.mem_append, List.mem_cons] at hother
    rcases hother with hbefore | rfl | hafter
    · exact (hothers other (hvalid other (by simp [hbefore]))).2
    · exact (hwrong other helement).2
    · exact (hothers other (hvalid other (by simp [hafter]))).2
  · have hbefore : ∀ other ∈ before, ∃ a, Yields read other (.ok a) :=
      fun other hother => (hothers other (hvalid other (by simp [hother]))).1
    rw [← Nat.zero_add before.length]
    exact collects_refused hbefore (hwrong element helement).1 0

end Arrays

/-! ## Objects -/

section Objects

variable {σ : Type} {member : String → σ → Except Cause (Reader σ)}

/-- What becomes of a state as the members of an object are read into it: it stops at the first
member with a fault. -/
inductive Gathers (member : String → σ → Except Cause (Reader σ)) :
    σ → List (String × List Char) → Except Path σ → Prop where
  | nil {state : σ} : Gathers member state [] (.ok state)
  | next {state next : σ} {name : String} {value : List Char}
      {members : List (String × List Char)} {read : Reader σ} {outcome : Except Path σ}
      (hmember : member name state = .ok read) (h : Yields read value (.ok next))
      (hmore : Gathers member next members outcome) :
      Gathers member state ((name, value) :: members) outcome
  | refused {state : σ} {name : String} {value : List Char}
      {members : List (String × List Char)} {read : Reader σ} {path : Path}
      (hmember : member name state = .ok read) (h : Yields read value (.error path)) :
      Gathers member state ((name, value) :: members) (.error (.member name :: path))

/-- At the start of an object, the name of its first member is read. -/
theorem nextName_append {name : String} {tail blanks : List Char}
    (hname : ∀ rest, readString (tail ++ rest) = .ok (name, rest)) (hblanks : IsBlanks blanks)
    (rest : List Char) :
    nextName true (blanks ++ '"' :: (tail ++ rest)) = .ok (some name, rest) := by
  unfold nextName
  rw [skipBlanks_blanks_append hblanks (by decide)]
  simp [readName, hname]

/-- What is made of an object in front of one of its members. -/
theorem readMembers_member {bound : Nat} {isFirst : Bool} {state : σ} {read : Reader σ}
    {name : String} {front before tail behind rest : List Char}
    (hname : ∀ rest, readString (tail ++ rest) = .ok (name, rest)) (hbefore : IsBlanks before)
    (hbehind : IsBlanks behind) (hmember : member name state = .ok read)
    (hfront : nextName isFirst front =
      nextName true (before ++ '"' :: (tail ++ (behind ++ ':' :: rest)))) :
    readMembers member (bound + 1) isFirst state front = (do
      let (state, rest) ← below (.member name) (read rest)
      readMembers member bound false state rest) := by
  have hcolon : readColon (behind ++ ':' :: rest) = .ok ((), rest) := by
    rw [readColon, skipBlanks_blanks_append hbehind (by decide)]
    rfl
  rw [nextName_append hname hbefore] at hfront
  rw [readMembers, hfront, below_ok, ok_bind]
  dsimp only
  rw [hmember]
  dsimp only
  rw [hcolon, ok_bind]

/-- The brace behind the last member closes an object. -/
theorem readMembers_closing {blanks : List Char} (hblanks : IsBlanks blanks) (bound : Nat)
    (isFirst : Bool) (state : σ) (rest : List Char) :
    readMembers member (bound + 1) isFirst state (blanks ++ '}' :: rest) = .ok (state, rest) := by
  have hnext : nextName isFirst (blanks ++ '}' :: rest) = .ok (none, '}' :: rest) := by
    simp [nextName, skipBlanks_blanks_append hblanks (by decide : isBlank '}' = false)]
  rw [readMembers, hnext, below_ok, ok_bind]
  rfl

/-- A member of an object stands in front of the blanks behind it, and then of the others. -/
theorem Separated.exists_member {name : String} {value : List Char}
    {members : List (String × List Char)} {inside : List Char}
    (h : Separated (SpellsMember SpellsString Eq) ((name, value) :: members) inside) :
    ∃ before tail behind front after more, IsBlanks before ∧ IsBlanks behind ∧ IsBlanks front ∧
      IsBlanks after ∧ (∀ rest, readString (tail ++ rest) = .ok (name, rest)) ∧
      inside = before ++ '"' :: (tail ++ (behind ++ ':' ::
        (front ++ (value ++ (after ++ more))))) ∧
      (∀ rest, Closes (more ++ '}' :: rest)) ∧
      (members = [] ∧ more = [] ∨
        ∃ others, more = ',' :: others ∧
          Separated (SpellsMember SpellsString Eq) members others) := by
  have hfirst : ∀ {text}, SpellsMember SpellsString Eq (name, value) text →
      ∃ before tail behind front after, IsBlanks before ∧ IsBlanks behind ∧ IsBlanks front ∧
        IsBlanks after ∧ (∀ rest, readString (tail ++ rest) = .ok (name, rest)) ∧
        text = before ++ '"' :: (tail ++ (behind ++ ':' :: (front ++ (value ++ after)))) := by
    rintro _ ⟨_, _, ⟨before, quoted, behind, hbefore, hquoted, hbehind, rfl⟩,
      ⟨front, _, after, hfront, rfl, hafter, rfl⟩, rfl⟩
    obtain ⟨tail, rfl, hname⟩ := hquoted.exists_readString
    exact ⟨before, tail, behind, front, after, hbefore, hbehind, hfront, hafter, hname, by simp⟩
  cases h with
  | last h =>
      obtain ⟨before, tail, behind, front, after, hbefore, hbehind, hfront, hafter, hname, rfl⟩ :=
        hfirst h
      exact ⟨before, tail, behind, front, after, [], hbefore, hbehind, hfront, hafter, hname,
        by simp, closes_closing .curly, .inl ⟨rfl, rfl⟩⟩
  | cons h hmore =>
      obtain ⟨before, tail, behind, front, after, hbefore, hbehind, hfront, hafter, hname, rfl⟩ :=
        hfirst h
      exact ⟨before, tail, behind, front, after, _, hbefore, hbehind, hfront, hafter, hname,
        by simp, fun _ => closes_comma _, .inr ⟨_, rfl, hmore⟩⟩

/-- Behind a comma, a member is looked for as at the start of an object. -/
theorem nextName_comma {members : List (String × List Char)} {inside blanks : List Char}
    (h : Separated (SpellsMember SpellsString Eq) members inside) (hblanks : IsBlanks blanks)
    (rest : List Char) :
    nextName false (blanks ++ ',' :: (inside ++ rest)) = nextName true (inside ++ rest) := by
  have hcomma := skipBlanks_blanks_append hblanks (by decide : isBlank ',' = false)
  cases members with
  | nil => nomatch h
  | cons first members =>
      obtain ⟨before, tail, behind, front, after, more, hbefore, -, -, -, -, rfl, -⟩ :=
        h.exists_member
      have hquote := skipBlanks_blanks_append hbefore (by decide : isBlank '"' = false)
      simp only [List.append_assoc, List.cons_append]
      simp [nextName, hcomma, hquote]

/-- The members of an object are read one by one, from where the name of the first of them is
looked for. -/
theorem Gathers.located_readMembers {state : σ} {members : List (String × List Char)}
    {outcome : Except Path σ} (h : Gathers member state members outcome) {inside : List Char}
    (hinside : Separated (SpellsMember SpellsString Eq) members inside) {bound : Nat}
    (hbound : members.length < bound) {isFirst : Bool} {front rest : List Char}
    (hfront : nextName isFirst front = nextName true (inside ++ '}' :: rest)) :
    located (readMembers member bound isFirst state front) =
      outcome.map fun state => (state, rest) := by
  obtain ⟨bound, rfl⟩ := Nat.exists_eq_add_one_of_ne_zero (by omega : bound ≠ 0)
  induction h generalizing inside bound isFirst front with
  | nil => nomatch hinside
  | @next state next name value members read outcome hmember h hmore ih =>
      obtain ⟨before, tail, behind, gap, after, more, hbefore, hbehind, hgap, hafter, hname, rfl,
        hcloses, hothers⟩ := hinside.exists_member
      obtain ⟨bound, rfl⟩ := Nat.exists_eq_add_one_of_ne_zero
        (by simp only [List.length_cons] at hbound; omega : bound ≠ 0)
      have hread := h.eq_ok hgap ((hcloses rest).blanks_append hafter)
      simp only [List.append_assoc, List.cons_append] at hfront
      rw [readMembers_member hname hbefore hbehind hmember hfront, hread, below_ok, ok_bind]
      rcases hothers with ⟨rfl, rfl⟩ | ⟨others, rfl, hothers⟩
      · cases hmore
        exact located_eq_ok_iff.mpr (readMembers_closing hafter bound false next rest)
      · refine ih hothers ?_ bound (by simpa using hbound)
        exact nextName_comma hothers hafter ('}' :: rest)
  | @refused state name value members read path hmember h =>
      obtain ⟨before, tail, behind, gap, after, more, hbefore, hbehind, hgap, hafter, hname, rfl,
        hcloses, -⟩ := hinside.exists_member
      obtain ⟨fault, hread, rfl⟩ := h.exists_fault hgap ((hcloses rest).blanks_append hafter)
      simp only [List.append_assoc, List.cons_append] at hfront
      rw [readMembers_member hname hbefore hbehind hmember hfront, hread]
      rfl

/-- The members of an object yield, from behind its opening brace, what they do one by one. -/
theorem Gathers.located_readObjectBody {state : σ} {members : List (String × List Char)}
    {outcome : Except Path σ} (h : Gathers member state members outcome) {text : List Char}
    (htext : SpellsObject SpellsString Eq members text) :
    ∃ inside, text = '{' :: inside ∧ ∀ rest,
      located (readObjectBody member state (inside ++ rest)) =
        outcome.map fun state => (state, rest) := by
  cases htext with
  | empty hblanks =>
      refine ⟨_, rfl, ?_⟩
      intro rest
      cases h
      rw [List.append_assoc]
      exact located_eq_ok_iff.mpr (readMembers_closing hblanks _ true state rest)
  | filled hinside =>
      rename_i inside
      refine ⟨_, rfl, ?_⟩
      intro rest
      have hlength := hinside.length_le
      rw [List.append_assoc]
      refine h.located_readMembers hinside ?_ rfl
      simp only [List.length_append, List.length_cons]
      omega

end Objects

end Memberwise.Json
