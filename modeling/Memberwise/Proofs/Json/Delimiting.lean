import Memberwise.Json.Characters
import Memberwise.Proofs.Results

/-!
# Ends of values

A value ends where its reader says so.  A word ends with its last letter, a string with its
closing quote, and whatever follows them is left as it stands.

Main definitions:

- {lit}`SelfDelimiting`: whether nothing that follows a value can change it.
- {lit}`IsLocal`: whether only the character behind a value can change it.

Main results:

- Theorems {lit}`SelfDelimiting.ite`, {lit}`SelfDelimiting.bind` and
  {lit}`selfDelimiting_afterBlanks`: readers that are put together from parts.
- Theorem {lit}`selfDelimiting_word`: words.
- Theorems {lit}`selfDelimiting_readString` and {lit}`selfDelimiting_skipChars`: strings.
-/

namespace Memberwise.Json

/-! ## Readers in parts -/

/-- Whether nothing that follows a value can change what a reader makes of it. -/
def SelfDelimiting {α : Type} (read : Reader α) : Prop :=
  ∀ ⦃text rest : List Char⦄ ⦃value : α⦄, read text = .ok (value, rest) →
    ∀ more, read (text ++ more) = .ok (value, rest ++ more)

/-- Whether nothing that follows the character behind a value can change what a reader makes of
the value. -/
def IsLocal {α : Type} (read : Reader α) : Prop :=
  ∀ ⦃text rest : List Char⦄ ⦃value : α⦄, read text = .ok (value, rest) → rest ≠ [] →
    ∀ more, read (text ++ more) = .ok (value, rest ++ more)

/-- What cannot be changed by anything cannot be changed behind the next character. -/
theorem SelfDelimiting.isLocal {α : Type} {read : Reader α} (h : SelfDelimiting read) :
    IsLocal read :=
  fun _ _ _ hread _ more => h hread more

/-- A reader succeeds below a place of the document if it succeeds. -/
@[simp]
theorem below_eq_ok_iff {α : Type} {segment : Segment} {result : Except Fault α} {a : α} :
    below segment result = .ok a ↔ result = .ok a := by
  cases result <;> simp [below]

/-- Grammar violations are no values. -/
@[simp]
theorem failBefore_ne_ok {α : Type} (error : GrammarError) (rest : List Char) (a : α) :
    failBefore error rest ≠ .ok a := by
  simp [failBefore]

/-- Grammar violations in the next byte are no values. -/
@[simp]
theorem failWithin_ne_ok {α : Type} (error : GrammarError) (rest : List Char) (a : α) :
    failWithin error rest ≠ .ok a := by
  simp [failWithin]

section Parts

variable {α β : Type}

/-- A value that is found without reading on ends where it is found. -/
theorem selfDelimiting_done (a : α) : SelfDelimiting fun rest => .ok (a, rest) := by
  intro text rest value h more
  cases h
  rfl

/-- A character that is put back stays in front of whatever follows it. -/
theorem selfDelimiting_keep (a : α) (c : Char) :
    SelfDelimiting fun rest => .ok (a, c :: rest) := by
  intro text rest value h more
  cases h
  rfl

/-- Where there is no value, nothing can change it. -/
theorem selfDelimiting_fail {read : Reader α} (h : ∀ text result, read text ≠ .ok result) :
    SelfDelimiting read := by
  intro text rest value hread
  exact absurd hread (h text _)

/-- A grammar violation is no value, whatever follows it. -/
theorem selfDelimiting_failWithin (error : GrammarError) (c : Char) :
    SelfDelimiting fun rest => (failWithin error (c :: rest) : Except Fault (α × List Char)) :=
  selfDelimiting_fail fun _ _ => failWithin_ne_ok _ _ _

/-- A choice of two readers that the text has no part in. -/
theorem SelfDelimiting.ite {p : Prop} [Decidable p] {first second : Reader α}
    (h : SelfDelimiting first) (h' : SelfDelimiting second) :
    SelfDelimiting fun text => if p then first text else second text := by
  by_cases hp : p
  · simpa only [if_pos hp] using h
  · simpa only [if_neg hp] using h'

/-- The same choice of two readers for which the next character may matter. -/
theorem IsLocal.ite {p : Prop} [Decidable p] {first second : Reader α}
    (h : IsLocal first) (h' : IsLocal second) :
    IsLocal fun text => if p then first text else second text := by
  by_cases hp : p
  · simpa only [if_pos hp] using h
  · simpa only [if_neg hp] using h'

/-- A reader behind another one. -/
theorem SelfDelimiting.bind {read : Reader α} {next : α × List Char → Except Fault (β × List Char)}
    (h : SelfDelimiting read) (hnext : ∀ a, SelfDelimiting fun rest => next (a, rest)) :
    SelfDelimiting fun text => read text >>= next := by
  intro text rest value hread more
  rcases bind_eq_ok_iff.mp hread with ⟨⟨a, after⟩, hfirst, hsecond⟩
  dsimp only
  rw [h hfirst more, ok_bind]
  exact hnext a hsecond more

/-- A reader behind another one for which the next character may matter.  If the second one
does not succeed without any text, there is such a character. -/
theorem IsLocal.bind {read : Reader α} {next : α × List Char → Except Fault (β × List Char)}
    (h : IsLocal read) (hnext : ∀ a, SelfDelimiting fun rest => next (a, rest))
    (hempty : ∀ a result, next (a, []) ≠ .ok result) :
    SelfDelimiting fun text => read text >>= next := by
  intro text rest value hread more
  rcases bind_eq_ok_iff.mp hread with ⟨⟨a, after⟩, hfirst, hsecond⟩
  have hne : after ≠ [] := by
    rintro rfl
    exact hempty a _ hsecond
  dsimp only
  rw [h hfirst hne more, ok_bind]
  exact hnext a hsecond more

/-- A value that something is made of ends where it ends itself. -/
theorem IsLocal.map {read : Reader α} (h : IsLocal read) (f : α → β) :
    IsLocal fun text => read text >>= fun found => .ok (f found.1, found.2) := by
  intro text rest value hread hrest more
  rcases bind_eq_ok_iff.mp hread with ⟨⟨a, after⟩, hfirst, hfound⟩
  cases hfound
  dsimp only
  rw [h hfirst hrest more, ok_bind]

end Parts

/-! ## Blanks and words -/

/-- Blanks in front of a character that is none stay the same when the text goes on. -/
theorem skipBlanks_append {text rest : List Char} {c : Char} (h : skipBlanks text = c :: rest)
    (more : List Char) : skipBlanks (text ++ more) = c :: (rest ++ more) := by
  unfold skipBlanks at h ⊢
  rw [List.dropWhile_append, h]
  rfl

/-- Blanks in front of a character that is none are skipped. -/
theorem skipBlanks_blanks_append {blanks : List Char} (hblanks : skipBlanks blanks = [])
    {c : Char} (hc : isBlank c = false) (rest : List Char) :
    skipBlanks (blanks ++ c :: rest) = c :: rest := by
  unfold skipBlanks at hblanks ⊢
  rw [List.dropWhile_append, hblanks]
  simp [hc]

/-- A reader behind some blanks. -/
theorem selfDelimiting_afterBlanks {α : Type} {error : GrammarError} {next : Char → Reader α}
    (h : ∀ c, SelfDelimiting (next c)) :
    SelfDelimiting fun text =>
      match skipBlanks text with
      | [] => failBefore error []
      | c :: rest => next c rest := by
  intro text rest value hread more
  dsimp only at hread ⊢
  split at hread
  · simp at hread
  · rename_i c tail hskip
    rw [skipBlanks_append hskip]
    exact h c hread more

/-- A word ends with its last letter. -/
theorem selfDelimiting_word (letters : List Char) : SelfDelimiting (word letters) := by
  induction letters with
  | nil =>
      intro text rest value h more
      cases h
      rfl
  | cons letter letters ih =>
      intro text rest value h more
      cases text with
      | nil => simp [word] at h
      | cons c text =>
          rw [List.cons_append, word]
          rw [word] at h
          split at h
          · rename_i hletter
            rw [if_pos hletter]
            exact ih h more
          · simp at h

/-! ## Escapes -/

/-- Four hexadecimal digits end with the last of them. -/
theorem selfDelimiting_readQuad : SelfDelimiting readQuad := by
  intro text rest value h more
  unfold readQuad at h
  split at h
  · rename_i hcode
    split at h
    · rename_i code hquad
      cases h
      simp [readQuad, hquad]
    · simp [failInQuad] at h
  · split at h <;> simp [failInQuad] at h

/-- The second half of a pair ends with its digits. -/
theorem selfDelimiting_readTrailing (leading : Nat) :
    SelfDelimiting (readTrailing leading) := by
  intro text rest value h more
  unfold readTrailing at h
  split at h
  · simp at h
  · simp at h
  · rename_i tail
    rcases bind_eq_ok_iff.mp h with ⟨⟨code, afterQuad⟩, hquad, hfound⟩
    have hmore := selfDelimiting_readQuad hquad more
    dsimp only at hfound
    split at hfound
    · rename_i htrailing
      simp only [Except.ok.injEq, Prod.mk.injEq] at hfound
      obtain ⟨rfl, rfl⟩ := hfound
      simp only [List.cons_append, readTrailing, hmore, ok_bind, if_pos htrailing]
    · simp at hfound
  · simp at h
  · simp at h

/-- An escape ends with its last character. -/
theorem selfDelimiting_readEscape : SelfDelimiting readEscape := by
  intro text rest value h more
  unfold readEscape at h
  split at h
  · simp at h
  · rename_i tail
    rcases bind_eq_ok_iff.mp h with ⟨⟨code, afterQuad⟩, hquad, hfound⟩
    have hmore := selfDelimiting_readQuad hquad more
    dsimp only at hfound
    split at hfound
    · simp at hfound
    · rename_i htrailing
      split at hfound
      · rename_i hleading
        have hpair := selfDelimiting_readTrailing code hfound more
        simp [readEscape, hmore, htrailing, hleading, hpair]
      · rename_i hleading
        cases hfound
        simp [readEscape, hmore, htrailing, hleading]
  · rename_i c tail hc
    split at h
    · rename_i d hshort
      cases h
      simp [readEscape, hshort]
    · simp at h

/-- An escape that is skipped ends with its last character. -/
theorem selfDelimiting_skipEscape : SelfDelimiting skipEscape := by
  intro text rest value h more
  unfold skipEscape at h
  split at h
  · simp at h
  · rename_i tail
    rcases bind_eq_ok_iff.mp h with ⟨⟨code, afterQuad⟩, hquad, hfound⟩
    have hmore := selfDelimiting_readQuad hquad more
    cases hfound
    simp [skipEscape, hmore]
  · rename_i c tail hc
    split at h
    · rename_i d hshort
      cases h
      simp [skipEscape, hshort]
    · simp at h

/-! ## Strings -/

/-- A closing quote ends a string. -/
theorem readChars_quote (rest : List Char) : readChars ('"' :: rest) = .ok ([], rest) := by
  rw [readChars, if_pos rfl]

/-- An escape in a string is one character of it. -/
theorem readChars_escape (text : List Char) :
    readChars ('\\' :: text) =
      readEscape text >>= fun found => prepend found.1 (readChars found.2) := by
  rw [readChars, if_neg (by decide), if_pos rfl]
  split
  · rename_i hescape
    rw [hescape]
    rfl
  · rename_i hescape
    dsimp only
    rw [hescape]
    rfl

/-- A string that starts with a character is that character in front of another string. -/
theorem prepend_eq_ok_iff {c : Char} {result : Except Fault (List Char × List Char)}
    {chars rest : List Char} :
    prepend c result = .ok (chars, rest) ↔
      ∃ others, result = .ok (others, rest) ∧ chars = c :: others := by
  cases result with
  | error fault => simp [prepend]
  | ok found =>
      constructor
      · intro h
        cases h
        exact ⟨found.1, rfl, rfl⟩
      · rintro ⟨others, h, rfl⟩
        cases h
        rfl

/-- The characters of a string end with its closing quote. -/
theorem selfDelimiting_readChars : SelfDelimiting readChars := by
  intro text
  induction text using readChars.induct with
  | case1 =>
      intro rest value h
      simp [readChars] at h
  | case2 tail =>
      intro rest value h more
      rw [readChars_quote] at h
      cases h
      exact readChars_quote (tail ++ more)
  | case3 tail fault hescape =>
      intro rest value h
      rw [readChars_escape, hescape] at h
      contradiction
  | case4 tail d after hescape hlt hquote ih =>
      intro rest value h more
      rw [readChars_escape, hescape, ok_bind] at h
      rcases prepend_eq_ok_iff.mp h with ⟨others, hothers, rfl⟩
      rw [List.cons_append, readChars_escape, selfDelimiting_readEscape hescape more, ok_bind]
      exact prepend_eq_ok_iff.mpr ⟨others, ih hothers more, rfl⟩
  | case5 c tail hquote hescape hcontrol =>
      intro rest value h
      rw [readChars, if_neg hquote, if_neg hescape, if_pos hcontrol] at h
      simp at h
  | case6 c tail hquote hescape hcontrol ih =>
      intro rest value h more
      rw [readChars, if_neg hquote, if_neg hescape, if_neg hcontrol] at h
      rcases prepend_eq_ok_iff.mp h with ⟨others, hothers, rfl⟩
      rw [List.cons_append, readChars, if_neg hquote, if_neg hescape, if_neg hcontrol]
      exact prepend_eq_ok_iff.mpr ⟨others, ih hothers more, rfl⟩

/-- A string ends with its closing quote. -/
theorem selfDelimiting_readString : SelfDelimiting readString :=
  selfDelimiting_readChars.bind fun chars => selfDelimiting_done (String.ofList chars)

/-- A closing quote ends a string that is skipped. -/
theorem skipChars_quote (rest : List Char) : skipChars ('"' :: rest) = .ok ((), rest) := by
  rw [skipChars, if_pos rfl]

/-- An escape is skipped on its own. -/
theorem skipChars_escape (text : List Char) :
    skipChars ('\\' :: text) = skipEscape text >>= fun found => skipChars found.2 := by
  rw [skipChars, if_neg (by decide), if_pos rfl]
  split
  · rename_i hescape
    rw [hescape]
    rfl
  · rename_i hescape
    dsimp only
    rw [hescape]
    rfl

/-- A string that is skipped ends with its closing quote. -/
theorem selfDelimiting_skipChars : SelfDelimiting skipChars := by
  intro text
  induction text using skipChars.induct with
  | case1 =>
      intro rest value h
      simp [skipChars] at h
  | case2 tail =>
      intro rest value h more
      rw [skipChars_quote] at h
      cases h
      exact skipChars_quote (tail ++ more)
  | case3 tail fault hescape =>
      intro rest value h
      rw [skipChars_escape, hescape] at h
      contradiction
  | case4 tail after hescape hlt hquote ih =>
      intro rest value h more
      rw [skipChars_escape, hescape, ok_bind] at h
      rw [List.cons_append, skipChars_escape, selfDelimiting_skipEscape hescape more, ok_bind]
      exact ih h more
  | case5 c tail hquote hescape hcontrol =>
      intro rest value h
      rw [skipChars, if_neg hquote, if_neg hescape, if_pos hcontrol] at h
      simp at h
  | case6 c tail hquote hescape hcontrol ih =>
      intro rest value h more
      rw [skipChars, if_neg hquote, if_neg hescape, if_neg hcontrol] at h
      rw [List.cons_append, skipChars, if_neg hquote, if_neg hescape, if_neg hcontrol]
      exact ih h more

end Memberwise.Json
