import Mathlib.Data.List.DropRight
import Mathlib.Data.List.TakeWhile
import Memberwise.Text.Blank

/-!
# What trimming keeps

Trimming takes a run of blanks off either end of a text and nothing else.

Main results:

- Theorem {lit}`trim_pad`: blanks around a trimmed text are what trimming takes
  off.
- Theorem {lit}`exists_eq_pad_trim`: every text is its trimmed text with blanks
  around it.
- Theorem {lit}`trimmed_trim`: trimming leaves a blank at neither end.
-/

namespace Memberwise.Text

/-! ## Blank texts and trimmed texts -/

/-- Whether a text is a run of blanks. -/
def AllBlank (text : List Char) : Prop :=
  ∀ c ∈ text, isBlank c = true

instance (text : List Char) : Decidable (AllBlank text) :=
  decidable_of_iff (text.all isBlank = true) List.all_eq_true

/-- Whether a text has a blank at neither end. -/
structure Trimmed (text : List Char) : Prop where
  head : ∀ c ∈ text.head?, isBlank c = false
  last : ∀ c ∈ text.getLast?, isBlank c = false

instance (text : List Char) : Decidable (Trimmed text) :=
  decidable_of_iff
    (text.head?.all (!isBlank ·) = true ∧ text.getLast?.all (!isBlank ·) = true)
    ⟨fun h => ⟨by simpa [Option.all_eq_true] using h.1, by simpa [Option.all_eq_true] using h.2⟩,
      fun h => ⟨by simpa [Option.all_eq_true] using h.head,
        by simpa [Option.all_eq_true] using h.last⟩⟩

/-- A text that begins and ends with characters that are no blanks is trimmed. -/
theorem trimmed_append {left right : List Char} (hleft : left ≠ [])
    (hright : right ≠ []) (hhead : ∀ c ∈ left.head?, isBlank c = false)
    (hlast : ∀ c ∈ right.getLast?, isBlank c = false) : Trimmed (left ++ right) := by
  constructor
  · intro c hc
    rw [List.head?_append_of_ne_nil _ hleft] at hc
    exact hhead c hc
  · intro c hc
    rw [List.getLast?_append_of_ne_nil _ hright] at hc
    exact hlast c hc

/-- The empty text is a run of no blanks. -/
theorem allBlank_nil : AllBlank [] := by
  simp [AllBlank]

/-- Two runs of blanks make one run. -/
theorem AllBlank.append {left right : List Char} (hleft : AllBlank left)
    (hright : AllBlank right) : AllBlank (left ++ right) := by
  intro c hc
  rcases List.mem_append.mp hc with hc | hc
  · exact hleft c hc
  · exact hright c hc

/-- A character that is no blank is in no run of blanks. -/
theorem AllBlank.not_mem {text : List Char} (h : AllBlank text) {c : Char}
    (hc : isBlank c = false) : c ∉ text := by
  intro hmem
  rw [h c hmem] at hc
  contradiction

/-! ## One end -/

/-- Leading blanks are taken off. -/
theorem trimStart_append {lead text : List Char} (h : AllBlank lead) :
    trimStart (lead ++ text) = trimStart text :=
  List.dropWhile_append_of_pos h

/-- Trailing blanks are taken off. -/
theorem trimEnd_append {text tail : List Char} (h : AllBlank tail) :
    trimEnd (text ++ tail) = trimEnd text := by
  have hreverse : ∀ c ∈ tail.reverse, isBlank c = true := by
    intro c hc
    exact h c (List.mem_reverse.mp hc)
  rw [trimEnd, List.reverse_append, List.dropWhile_append_of_pos hreverse, trimEnd]

/-- A text that does not begin with a blank keeps its beginning. -/
theorem trimStart_eq_self {text : List Char}
    (h : ∀ c ∈ text.head?, isBlank c = false) : trimStart text = text := by
  cases text with
  | nil => rfl
  | cons c rest =>
      have hc : isBlank c = false := h c rfl
      exact List.dropWhile_cons_of_neg (by simp [hc])

/-- A text that does not end with a blank keeps its end. -/
theorem trimEnd_eq_self {text : List Char}
    (h : ∀ c ∈ text.getLast?, isBlank c = false) : trimEnd text = text := by
  refine List.rdropWhile_eq_self_iff.mpr ?_
  intro hne
  simp [h _ (List.getLast?_eq_some_getLast hne)]

/-- What stands in front of a character that is no blank is kept by trimming the end. -/
theorem trimEnd_append_cons {c : Char} (hc : isBlank c = false) (left right : List Char) :
    trimEnd (left ++ c :: right) = left ++ c :: trimEnd right := by
  have hdrop : (right.reverse ++ c :: left.reverse).dropWhile isBlank =
      right.reverse.dropWhile isBlank ++ c :: left.reverse := by
    rw [List.dropWhile_append, List.dropWhile_cons_of_neg (by simp [hc])]
    split
    · rename_i hempty
      rw [List.isEmpty_iff.mp hempty, List.nil_append]
    · rfl
  rw [trimEnd, List.reverse_append, List.reverse_cons, List.append_assoc,
    List.singleton_append, hdrop, List.reverse_append, List.reverse_cons, List.reverse_reverse,
    List.append_assoc, List.singleton_append, trimEnd]

/-- What is left after the leading blanks does not begin with one. -/
theorem head_trimStart {text : List Char} {c : Char}
    (h : c ∈ (trimStart text).head?) : isBlank c = false := by
  have hhead := List.head?_dropWhile_not isBlank text
  rw [trimStart] at h
  rw [Option.mem_def.mp h] at hhead
  simpa using hhead

/-- What is left in front of the trailing blanks does not end with one. -/
theorem last_trimEnd {text : List Char} {c : Char}
    (h : c ∈ (trimEnd text).getLast?) : isBlank c = false := by
  rw [trimEnd, List.getLast?_reverse] at h
  exact head_trimStart h

/-- Every text is a run of blanks in front of what is left without it. -/
theorem exists_eq_append_trimStart (text : List Char) :
    ∃ lead, AllBlank lead ∧ text = lead ++ trimStart text := by
  refine ⟨text.takeWhile isBlank, ?_, ?_⟩
  · intro c hc
    exact List.mem_takeWhile_imp hc
  · exact List.takeWhile_append_dropWhile.symm

/-- Every text is a run of blanks behind what is left without it. -/
theorem exists_eq_trimEnd_append (text : List Char) :
    ∃ tail, AllBlank tail ∧ text = trimEnd text ++ tail := by
  rcases exists_eq_append_trimStart text.reverse with ⟨lead, hlead, heq⟩
  refine ⟨lead.reverse, ?_, ?_⟩
  · intro c hc
    exact hlead c (List.mem_reverse.mp hc)
  · have hreverse := congrArg List.reverse heq
    simpa [trimEnd, trimStart] using hreverse

/-! ## Both ends -/

/-- Nothing is left of a text exactly if it is blank. -/
theorem trim_eq_nil_iff {text : List Char} : trim text = [] ↔ AllBlank text := by
  constructor
  · intro hnil
    rcases exists_eq_append_trimStart text with ⟨lead, hlead, hstart⟩
    rcases exists_eq_trimEnd_append (trimStart text) with ⟨tail, htail, hend⟩
    rw [← trim, hnil, List.nil_append] at hend
    rw [hstart, hend]
    exact hlead.append htail
  · intro hblank
    have hstart : trimStart text = [] := List.dropWhile_eq_nil_iff.mpr hblank
    rw [trim, hstart]
    rfl

/-- A trimmed text is left as it is. -/
theorem trim_eq_self {text : List Char} (h : Trimmed text) : trim text = text := by
  rw [trim, trimStart_eq_self h.head, trimEnd_eq_self h.last]

/-- Trailing blanks make no difference to a trimmed text. -/
theorem trim_append {text tail : List Char} (htail : AllBlank tail) :
    trim (text ++ tail) = trim text := by
  rw [trim, trim, trimStart, List.dropWhile_append]
  split
  · rename_i hempty
    have hrest : tail.dropWhile isBlank = [] := List.dropWhile_eq_nil_iff.mpr htail
    rw [hrest, trimStart, List.isEmpty_iff.mp hempty]
  · exact trimEnd_append htail

/-- Leading blanks make no difference to a trimmed text. -/
theorem trim_blank_append {lead text : List Char} (hlead : AllBlank lead) :
    trim (lead ++ text) = trim text := by
  rw [trim, trimStart_append hlead, trim]

/-- Blanks around a trimmed text are what trimming takes off. -/
theorem trim_pad {lead text tail : List Char} (hlead : AllBlank lead)
    (htext : Trimmed text) (htail : AllBlank tail) :
    trim (lead ++ text ++ tail) = text := by
  rw [trim_append htail, trim_blank_append hlead, trim_eq_self htext]

/-- The beginning of a text is kept by trimming its end. -/
theorem head?_trimEnd {text : List Char} (h : trimEnd text ≠ []) :
    (trimEnd text).head? = text.head? := by
  rcases exists_eq_trimEnd_append text with ⟨tail, _, heq⟩
  conv_rhs => rw [heq]
  exact (List.head?_append_of_ne_nil _ h).symm

/-- Trimming leaves a blank at neither end. -/
theorem trimmed_trim (text : List Char) : Trimmed (trim text) := by
  refine ⟨?_, fun c hc => last_trimEnd hc⟩
  intro c hc
  have hne : trim text ≠ [] := by
    rintro hnil
    simp [hnil] at hc
  rw [trim, head?_trimEnd hne] at hc
  exact head_trimStart hc

/-- Trimming a second time changes nothing. -/
theorem trim_trim (text : List Char) : trim (trim text) = trim text :=
  trim_eq_self (trimmed_trim text)

/-- Every text is its trimmed text with blanks around it. -/
theorem exists_eq_pad_trim (text : List Char) :
    ∃ lead tail, AllBlank lead ∧ AllBlank tail ∧ text = lead ++ trim text ++ tail := by
  rcases exists_eq_append_trimStart text with ⟨lead, hlead, hstart⟩
  rcases exists_eq_trimEnd_append (trimStart text) with ⟨tail, htail, hend⟩
  refine ⟨lead, tail, hlead, htail, ?_⟩
  rw [trim, List.append_assoc, ← hend]
  exact hstart

end Memberwise.Text
