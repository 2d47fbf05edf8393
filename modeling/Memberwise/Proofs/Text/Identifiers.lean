import Memberwise.Text.Identifier

/-!
# The characters of identifiers

An identifier is not empty, and it goes on as long as its characters may continue one.

Main definitions:

- {lit}`Avoids`: whether a text has none of some characters.

Main results:

- Theorem {lit}`takeWhile_and_dropWhile_append`: a run is taken as far as it goes.
- Theorem {lit}`exists_cons_of_isIdentifier`: an identifier has a first character and
  further ones.
- Theorem {lit}`avoids_of_isIdentifier`: an identifier avoids what cannot continue it.
- Theorem {lit}`isIdentifier_append`: an identifier can be continued.
-/

namespace Memberwise.Text

/-! ## Characters that a text avoids -/

/-- Whether a text has none of some characters. -/
def Avoids (special text : List Char) : Prop :=
  ∀ c ∈ text, c ∉ special

-- The instance is named because a search may also find the one that tries all characters
-- that there are.
instance (special text : List Char) : Decidable (Avoids special text) :=
  List.decidableBAll (fun c => c ∉ special) text

section Avoidance

variable {special : List Char}

@[simp]
theorem avoids_nil : Avoids special [] := by
  simp [Avoids]

@[simp]
theorem avoids_cons {c : Char} {text : List Char} :
    Avoids special (c :: text) ↔ c ∉ special ∧ Avoids special text := by
  simp [Avoids]

@[simp]
theorem avoids_append {left right : List Char} :
    Avoids special (left ++ right) ↔ Avoids special left ∧ Avoids special right := by
  simp only [Avoids, List.forall_mem_append]

end Avoidance

/-! ## Runs -/

/-- A run of elements is taken as far as it goes, if what follows cannot continue it. -/
theorem takeWhile_and_dropWhile_append {α : Type} {p : α → Bool} {run rest : List α}
    (hrun : ∀ c ∈ run, p c = true) (hrest : ∀ c ∈ rest.head?, p c = false) :
    (run ++ rest).takeWhile p = run ∧ (run ++ rest).dropWhile p = rest := by
  have hstop : rest.takeWhile p = [] ∧ rest.dropWhile p = rest := by
    cases rest with
    | nil => exact ⟨rfl, rfl⟩
    | cons c rest => simp [hrest c rfl]
  rw [List.takeWhile_append_of_pos hrun, List.dropWhile_append_of_pos hrun, hstop.1, hstop.2,
    List.append_nil]
  exact ⟨rfl, rfl⟩

/-! ## Identifiers -/

/-- An identifier has a first character and further ones. -/
theorem exists_cons_of_isIdentifier {name : String} (h : isIdentifier name = true) :
    ∃ c rest, name.toList = c :: rest ∧ isIdentifierStart c = true ∧
      ∀ d ∈ rest, isIdentifierRest d = true := by
  unfold isIdentifier spellsIdentifier at h
  split at h
  · contradiction
  · rename_i c rest hname
    rw [Bool.and_eq_true, List.all_eq_true] at h
    exact ⟨c, rest, hname, h.1, h.2⟩

/-- Every character of an identifier may continue one. -/
theorem isIdentifierRest_of_mem {name : String} {c : Char}
    (h : isIdentifier name = true) (hc : c ∈ name.toList) : isIdentifierRest c = true := by
  rcases exists_cons_of_isIdentifier h with ⟨first, rest, hname, hfirst, hrest⟩
  rw [hname] at hc
  rcases List.mem_cons.mp hc with rfl | hc
  · simp [isIdentifierRest, hfirst]
  · exact hrest c hc

/-- An identifier avoids characters that cannot continue one. -/
theorem avoids_of_isIdentifier {name : String} (h : isIdentifier name = true)
    {special : List Char} (hspecial : special.all (!isIdentifierRest ·) = true) :
    Avoids special name.toList := by
  intro c hc hmem
  have hrest := isIdentifierRest_of_mem h hc
  simpa [hrest] using List.all_eq_true.mp hspecial c hmem

/-- An identifier followed by a character that may continue it is an identifier. -/
theorem isIdentifier_append {name suffix : String} (h : isIdentifier name = true)
    (hsuffix : ∀ c ∈ suffix.toList, isIdentifierRest c = true) :
    isIdentifier (name ++ suffix) = true := by
  rcases exists_cons_of_isIdentifier h with ⟨first, rest, hname, hfirst, hrest⟩
  rw [isIdentifier, String.toList_append, hname, List.cons_append, spellsIdentifier,
    Bool.and_eq_true, List.all_eq_true]
  refine ⟨hfirst, ?_⟩
  intro c hc
  rcases List.mem_append.mp hc with hc | hc
  · exact hrest c hc
  · exact hsuffix c hc

end Memberwise.Text
