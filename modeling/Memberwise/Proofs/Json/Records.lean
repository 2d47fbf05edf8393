import Memberwise.Json.Record
import Memberwise.Proofs.Json.Skipping

/-!
# Ends of records

Arrays, objects and records end with their closing bracket, whatever values they hold: a value
between brackets is followed by something, so only the character behind it could change it, and
that character is there.

Main results:

- Theorems {lit}`selfDelimiting_readText`, {lit}`selfDelimiting_readBoolean` and
  {lit}`selfDelimiting_readOptional`: values of one kind.
- Theorem {lit}`selfDelimiting_readListBody`: arrays.
- Theorem {lit}`selfDelimiting_readObjectBody`: objects.
- Theorem {lit}`Schema.selfDelimiting_read`: records.
-/

namespace Memberwise.Json

/-! ## Values of one kind -/

/-- A value of another shape is no value of the wanted one. -/
theorem mismatch_ne_ok {α : Type} (expected : String) (text : List Char) (a : α) :
    mismatch expected text ≠ .ok a := by
  intro h
  unfold mismatch at h
  split at h
  · simp at h
  · -- Whatever is found is named in a fault, behind what is read of it.
    repeat' split at h
    all_goals
      first
      | contradiction
      | rcases bind_eq_ok_iff.mp h with ⟨_, _, hfound⟩
        contradiction

/-- A string ends with its closing quote. -/
theorem selfDelimiting_readText : SelfDelimiting readText := by
  intro text rest value h more
  unfold readText at h
  split at h
  · rename_i tail hskip
    simp only [readText, skipBlanks_append hskip, selfDelimiting_readString h more]
  · exact absurd h (mismatch_ne_ok _ _ _)

/-- A truth value ends with its last letter. -/
theorem selfDelimiting_readBoolean : SelfDelimiting readBoolean := by
  intro text rest value h more
  unfold readBoolean at h
  split at h
  · rename_i tail hskip
    rcases bind_eq_ok_iff.mp h with ⟨⟨_, after⟩, hword, hfound⟩
    cases hfound
    simp only [readBoolean, skipBlanks_append hskip, selfDelimiting_word _ hword more, ok_bind]
  · rename_i tail hskip
    rcases bind_eq_ok_iff.mp h with ⟨⟨_, after⟩, hword, hfound⟩
    cases hfound
    simp only [readBoolean, skipBlanks_append hskip, selfDelimiting_word _ hword more, ok_bind]
  · exact absurd h (mismatch_ne_ok _ _ _)

/-- A value that may be null ends like the value that it may be, if that one is not empty. -/
theorem selfDelimiting_readOptional {α : Type} {read : Reader α} (hread : SelfDelimiting read)
    (hempty : ∀ result, read [] ≠ .ok result) : SelfDelimiting (readOptional read) := by
  intro text rest value h more
  unfold readOptional at h
  split at h
  · rename_i tail hskip
    rcases bind_eq_ok_iff.mp h with ⟨⟨_, after⟩, hword, hfound⟩
    cases hfound
    simp only [readOptional, skipBlanks_append hskip, selfDelimiting_word _ hword more, ok_bind]
  · rename_i hnull
    rcases bind_eq_ok_iff.mp h with ⟨⟨found, after⟩, hvalue, hfound⟩
    cases hfound
    cases hskip : skipBlanks text with
    | nil =>
        rw [hskip] at hvalue
        exact absurd hvalue (hempty _)
    | cons c tail =>
        rw [hskip] at hvalue
        have hmore := hread hvalue more
        unfold readOptional
        rw [skipBlanks_append hskip]
        split
        · rename_i after' hafter
          cases hafter
          exact absurd hskip (hnull _)
        · rw [← List.cons_append, hmore]
          rfl

/-! ## Arrays -/

/-- What is looked at in front of an element ends with its first character. -/
theorem selfDelimiting_nextElement (isFirst : Bool) : SelfDelimiting (nextElement isFirst) := by
  refine selfDelimiting_afterBlanks fun c => ?_
  refine .ite (selfDelimiting_keep false c) ?_
  refine .ite (selfDelimiting_keep true c) ?_
  refine .ite ?_ (selfDelimiting_failWithin _ c)
  refine selfDelimiting_afterBlanks fun d => ?_
  exact .ite (selfDelimiting_failWithin _ d) (selfDelimiting_keep true d)

/-- In front of an element, and of the bracket behind the last one, stands something. -/
theorem nextElement_nil (isFirst : Bool) (result : Bool × List Char) :
    nextElement isFirst [] ≠ .ok result := by
  simp [nextElement, skipBlanks]

/-- An array ends with its closing bracket. -/
theorem selfDelimiting_closeArray : SelfDelimiting closeArray := by
  refine selfDelimiting_afterBlanks fun c => ?_
  refine .ite (selfDelimiting_done ()) ?_
  refine .ite (selfDelimiting_fail ?_) (selfDelimiting_failWithin _ c)
  intro text result h
  split at h <;> simp at h

/-- In front of the elements of an array that are left stands something. -/
theorem readElements_nil {α : Type} (read : Reader α) (bound index : Nat)
    (result : List α × List Char) : readElements read bound index [] ≠ .ok result := by
  intro h
  cases bound with
  | zero => simp [readElements] at h
  | succ bound =>
      rw [readElements] at h
      rcases bind_eq_ok_iff.mp h with ⟨_, hnext, -⟩
      exact nextElement_nil _ _ hnext

/-- The bracket behind the last element closes an array. -/
theorem readElements_closing {α : Type} (read : Reader α) {blanks : List Char}
    (hblanks : skipBlanks blanks = []) (bound index : Nat) (rest : List Char) :
    readElements read (bound + 1) index (blanks ++ ']' :: rest) = .ok ([], rest) := by
  have hskip := skipBlanks_blanks_append hblanks (by decide : isBlank ']' = false) rest
  have hnext : nextElement (index == 0) (blanks ++ ']' :: rest) = .ok (false, ']' :: rest) := by
    simp [nextElement, hskip]
  rw [readElements, hnext]
  rfl

/-- The elements of an array go on the same way when the text does, and with a greater bound. -/
theorem readElements_append {α : Type} {read : Reader α} (hread : IsLocal read)
    {bound index : Nat} {text rest : List Char} {values : List α}
    (h : readElements read bound index text = .ok (values, rest)) {bound' : Nat}
    (hbound : bound ≤ bound') (more : List Char) :
    readElements read bound' index (text ++ more) = .ok (values, rest ++ more) := by
  induction bound generalizing bound' index text values with
  | zero => simp [readElements] at h
  | succ bound ih =>
      obtain ⟨bound', rfl⟩ := Nat.exists_eq_add_one_of_ne_zero (by omega : bound' ≠ 0)
      have hle : bound ≤ bound' := by omega
      rw [readElements] at h
      rcases bind_eq_ok_iff.mp h with ⟨⟨isThere, afterNext⟩, hnext, h⟩
      rw [readElements, selfDelimiting_nextElement _ hnext more, ok_bind]
      dsimp only at h ⊢
      split at h
      · rename_i hthere
        rw [if_pos hthere]
        rcases bind_eq_ok_iff.mp h with ⟨⟨value, afterValue⟩, hvalue, h⟩
        rcases bind_eq_ok_iff.mp h with ⟨⟨others, afterOthers⟩, hothers, hfound⟩
        cases hfound
        have hne : afterValue ≠ [] := by
          rintro rfl
          exact readElements_nil _ _ _ _ hothers
        rw [below_eq_ok_iff.mpr (hread (below_eq_ok_iff.mp hvalue) hne more), ok_bind]
        dsimp only
        rw [ih hothers hle, ok_bind]
      · rename_i hthere
        rw [if_neg hthere]
        rcases bind_eq_ok_iff.mp h with ⟨⟨_, afterClosing⟩, hclosing, hfound⟩
        cases hfound
        rw [selfDelimiting_closeArray hclosing more, ok_bind]

/-- The body of an array ends with its closing bracket. -/
theorem selfDelimiting_readListBody {α : Type} {read : Reader α} (hread : IsLocal read) :
    SelfDelimiting (readListBody read) := by
  intro text rest value h more
  have hbound : text.length + 1 ≤ (text ++ more).length + 1 := by simp
  exact readElements_append hread h hbound more

/-- An array of any length ends with its closing bracket. -/
theorem selfDelimiting_readList {α : Type} {read : Reader α} (hread : IsLocal read) :
    SelfDelimiting (readList read) := by
  intro text rest value h more
  unfold readList at h
  split at h
  · rename_i tail hskip
    simp only [readList, skipBlanks_append hskip, selfDelimiting_readListBody hread h more]
  · exact absurd h (mismatch_ne_ok _ _ _)

/-! ## Objects -/

/-- The name of a member ends with its closing quote. -/
theorem selfDelimiting_readName : SelfDelimiting readName :=
  selfDelimiting_readString.bind fun name => selfDelimiting_done (some name)

/-- What is looked at of the next member ends with its name, or in front of the closing
brace. -/
theorem selfDelimiting_nextName (isFirst : Bool) : SelfDelimiting (nextName isFirst) := by
  refine selfDelimiting_afterBlanks fun c => ?_
  refine .ite (selfDelimiting_keep none c) ?_
  refine .ite ?first (.ite ?further (selfDelimiting_failWithin _ c))
  case first => exact .ite selfDelimiting_readName (selfDelimiting_failWithin _ c)
  case further =>
    refine selfDelimiting_afterBlanks fun d => ?_
    refine .ite selfDelimiting_readName ?_
    exact .ite (selfDelimiting_failWithin _ d) (selfDelimiting_failWithin _ d)

/-- In front of the next member, and of the brace behind the last one, stands something. -/
theorem nextName_nil (isFirst : Bool) (result : Option String × List Char) :
    nextName isFirst [] ≠ .ok result := by
  simp [nextName, skipBlanks]

/-- Without a next member, the brace that closes the object comes next. -/
theorem exists_brace_of_nextName {isFirst : Bool} {text rest : List Char}
    (h : nextName isFirst text = .ok (none, rest)) : ∃ after, rest = '}' :: after := by
  have hreadName : ∀ text, readName text ≠ .ok (none, rest) := by
    intro text hname
    rcases bind_eq_ok_iff.mp hname with ⟨⟨name, after⟩, -, hfound⟩
    simp at hfound
  unfold nextName at h
  split at h
  · simp at h
  · rename_i c tail hskip
    split at h
    · rename_i hclosing
      cases h
      exact ⟨tail, by rw [hclosing]⟩
    split at h
    · split at h
      · exact absurd h (hreadName _)
      · simp at h
    split at h
    · split at h
      · simp at h
      · split at h
        · exact absurd h (hreadName _)
        · split at h <;> simp at h
    · simp at h

/-- In front of the members of an object that are left stands something. -/
theorem readMembers_nil {σ : Type} (member : String → σ → Except Cause (Reader σ))
    (bound : Nat) (isFirst : Bool) (state : σ) (result : σ × List Char) :
    readMembers member bound isFirst state [] ≠ .ok result := by
  intro h
  cases bound with
  | zero => simp [readMembers] at h
  | succ bound =>
      rw [readMembers] at h
      rcases bind_eq_ok_iff.mp h with ⟨_, hnext, -⟩
      exact nextName_nil _ _ (below_eq_ok_iff.mp hnext)

/-- The members of an object go on the same way when the text does, and with a greater
bound. -/
theorem readMembers_append {σ : Type} {member : String → σ → Except Cause (Reader σ)}
    (hmember : ∀ {name state read}, member name state = .ok read → IsLocal read)
    {bound : Nat} {isFirst : Bool} {state final : σ} {text rest : List Char}
    (h : readMembers member bound isFirst state text = .ok (final, rest)) {bound' : Nat}
    (hbound : bound ≤ bound') (more : List Char) :
    readMembers member bound' isFirst state (text ++ more) = .ok (final, rest ++ more) := by
  induction bound generalizing bound' isFirst state text with
  | zero => simp [readMembers] at h
  | succ bound ih =>
      obtain ⟨bound', rfl⟩ := Nat.exists_eq_add_one_of_ne_zero (by omega : bound' ≠ 0)
      have hle : bound ≤ bound' := by omega
      rw [readMembers] at h
      rcases bind_eq_ok_iff.mp h with ⟨⟨name, afterName⟩, hname, h⟩
      have hname := below_eq_ok_iff.mp hname
      rw [readMembers, below_eq_ok_iff.mpr (selfDelimiting_nextName _ hname more), ok_bind]
      cases name with
      | none =>
          rcases exists_brace_of_nextName hname with ⟨after, rfl⟩
          cases h
          rfl
      | some name =>
          dsimp only at h ⊢
          cases hread : member name state with
          | error cause =>
              rw [hread] at h
              contradiction
          | ok read =>
              rw [hread] at h
              dsimp only at h ⊢
              rcases bind_eq_ok_iff.mp h with ⟨⟨_, afterColon⟩, hcolon, h⟩
              rcases bind_eq_ok_iff.mp h with ⟨⟨next, afterValue⟩, hvalue, h⟩
              have hne : afterValue ≠ [] := by
                rintro rfl
                exact readMembers_nil _ _ _ _ _ h
              have hvalue := hmember hread (below_eq_ok_iff.mp hvalue) hne more
              rw [selfDelimiting_readColon hcolon more, ok_bind]
              dsimp only
              rw [below_eq_ok_iff.mpr hvalue, ok_bind]
              exact ih h hle

/-- The body of an object ends with its closing brace. -/
theorem selfDelimiting_readObjectBody {σ : Type}
    {member : String → σ → Except Cause (Reader σ)}
    (hmember : ∀ {name state read}, member name state = .ok read → IsLocal read) (state : σ) :
    SelfDelimiting (readObjectBody member state) := by
  intro text rest value h more
  have hbound : text.length + 1 ≤ (text ++ more).length + 1 := by simp
  exact readMembers_append hmember h hbound more

/-! ## Records -/

/-- A slot is as local as the values that it takes. -/
theorem isLocal_read_slotOf {σ α : Type} (name : String) (get : σ → Option α)
    (set : σ → α → σ) {read : Reader α} (hread : IsLocal read) (state : σ) :
    IsLocal ((Slot.of name get set read).read state) :=
  hread.map (set state)

namespace Schema

variable {σ α : Type} {schema : Schema σ α}

/-- Members are local if the slots of a record are. -/
theorem isLocal_member (hslots : ∀ slot ∈ schema.slots, ∀ state, IsLocal (slot.read state))
    {name : String} {state : σ} {read : Reader σ} (h : schema.member name state = .ok read) :
    IsLocal read := by
  unfold member at h
  split at h
  · cases h
    exact isLocal_skipValue.map fun _ => state
  · rename_i slot hslot
    split at h
    · contradiction
    · cases h
      exact hslots slot (List.mem_of_find?_eq_some hslot) state

/-- A record that is written as an object ends with its closing brace. -/
theorem selfDelimiting_readObject
    (hslots : ∀ slot ∈ schema.slots, ∀ state, IsLocal (slot.read state)) :
    SelfDelimiting schema.readObject := by
  refine (selfDelimiting_readObjectBody (isLocal_member hslots) _).bind fun state => ?_
  dsimp only
  cases schema.ofMembers state with
  | ok value => exact selfDelimiting_done value
  | error cause => exact selfDelimiting_fail (by simp)

/-- Nothing follows the end of a text. -/
theorem eq_nil_of_readSlots {slots : List (Slot σ)} {index : Nat} {state final : σ}
    {rest : List Char} (h : readSlots slots index state [] = .ok (final, rest)) : rest = [] := by
  cases slots with
  | nil =>
      cases h
      rfl
  | cons slot slots =>
      rw [readSlots] at h
      rcases bind_eq_ok_iff.mp h with ⟨_, hnext, -⟩
      exact absurd hnext (nextElement_nil _ _)

/-- The elements of a record go on the same way when the text does. -/
theorem isLocal_readSlots {slots : List (Slot σ)}
    (hslots : ∀ slot ∈ slots, ∀ state, IsLocal (slot.read state)) (index : Nat) (state : σ) :
    IsLocal (readSlots slots index state) := by
  induction slots generalizing index state with
  | nil =>
      intro text rest value h hrest more
      cases h
      rfl
  | cons slot slots ih =>
      intro text rest value h hrest more
      rw [readSlots] at h
      rcases bind_eq_ok_iff.mp h with ⟨⟨isThere, afterNext⟩, hnext, h⟩
      rw [readSlots, selfDelimiting_nextElement _ hnext more, ok_bind]
      dsimp only at h ⊢
      split at h
      · rename_i hthere
        rw [if_pos hthere]
        rcases bind_eq_ok_iff.mp h with ⟨⟨next, afterValue⟩, hvalue, h⟩
        have hne : afterValue ≠ [] := by
          rintro rfl
          exact hrest (eq_nil_of_readSlots h)
        have hvalue := hslots slot (by simp) state (below_eq_ok_iff.mp hvalue) hne more
        rw [below_eq_ok_iff.mpr hvalue, ok_bind]
        exact ih (fun other hother => hslots other (by simp [hother])) _ _ h hrest more
      · rename_i hthere
        cases h
        rw [if_neg hthere]

/-- A record that is written as an array ends with its closing bracket. -/
theorem selfDelimiting_readArray
    (hslots : ∀ slot ∈ schema.slots, ∀ state, IsLocal (slot.read state)) :
    SelfDelimiting schema.readArray := by
  have hempty : ∀ result, closeArray [] ≠ .ok result := by simp [closeArray, skipBlanks]
  refine (isLocal_readSlots hslots 0 _).bind (fun state => ?_) (fun state result => ?_)
  · dsimp only
    cases schema.ofElements state with
    | ok value => exact selfDelimiting_closeArray.bind fun _ => selfDelimiting_done value
    | error cause => exact selfDelimiting_closeArray.bind fun _ => selfDelimiting_fail (by simp)
  · dsimp only
    cases schema.ofElements state with
    | ok value =>
        intro h
        rcases bind_eq_ok_iff.mp h with ⟨_, hclosing, -⟩
        exact hempty _ hclosing
    | error cause =>
        intro h
        rcases bind_eq_ok_iff.mp h with ⟨_, hclosing, -⟩
        exact hempty _ hclosing

/-- A record ends with its closing bracket. -/
theorem selfDelimiting_read
    (hslots : ∀ slot ∈ schema.slots, ∀ state, IsLocal (slot.read state)) :
    SelfDelimiting schema.read := by
  intro text rest value h more
  unfold read at h
  split at h
  · rename_i tail hskip
    simp only [read, skipBlanks_append hskip, selfDelimiting_readObject hslots h more]
  · rename_i tail hskip
    simp only [read, skipBlanks_append hskip, selfDelimiting_readArray hslots h more]
  · exact absurd h (mismatch_ne_ok _ _ _)

end Schema

end Memberwise.Json
