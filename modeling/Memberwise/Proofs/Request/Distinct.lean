import Mathlib.Data.List.Induction
import Mathlib.Data.List.Sort
import Memberwise.Request

/-!
# Distinct elements

The distinct elements of a list are its elements without repetitions, in the order in which they
first occur.  No other list is that.

Main definitions:

- {lit}`IsFirstOccurrences`: whether a list holds the first occurrences in another one.

Main results:

- Theorem {lit}`isFirstOccurrences_iff`: the first occurrences in a list are its distinct elements.
- Theorem {lit}`distinct_append_of_subset`: elements that occurred before add nothing.
-/

namespace Memberwise

section Distinct

variable {α : Type} [DecidableEq α] {list : List α} {a : α}

/-- Whether a list holds the elements of another one, each once, in the order in which they first
occur there. -/
structure IsFirstOccurrences (list firsts : List α) : Prop where
  nodup : firsts.Nodup
  mem_iff : ∀ a, a ∈ firsts ↔ a ∈ list
  pairwise : firsts.Pairwise fun a b => list.idxOf a < list.idxOf b

/-- The distinct elements of a list are its elements. -/
theorem mem_distinct : a ∈ distinct list ↔ a ∈ list := by
  induction list with
  | nil => rfl
  | cons first rest ih =>
      by_cases ha : a = first
      · simp [distinct, ha]
      · simp [distinct, ha, ih]

/-- An element at the end of a list is distinct if it does not occur before. -/
theorem distinct_concat (list : List α) (a : α) :
    distinct (list ++ [a]) = if a ∈ list then distinct list else distinct list ++ [a] := by
  induction list with
  | nil => rfl
  | cons first rest ih =>
      rw [List.cons_append, distinct, ih, distinct]
      by_cases hfirst : a = first
      · subst hfirst
        by_cases hrest : a ∈ rest <;> simp [hrest]
      · by_cases hrest : a ∈ rest <;> simp [hfirst, hrest]

/-- Elements that occurred before add nothing to the distinct ones. -/
theorem distinct_append_of_subset {before after : List α} (h : after ⊆ before) :
    distinct (before ++ after) = distinct before := by
  induction after using List.reverseRecOn with
  | nil => rw [List.append_nil]
  | append_singleton after a ih =>
      rw [List.append_subset] at h
      have ha : a ∈ before ++ after :=
        List.mem_append_left _ (h.2 (List.mem_singleton_self a))
      rw [← List.append_assoc, distinct_concat, if_pos ha, ih h.1]

/-- The distinct elements are in the order in which they first occur. -/
theorem pairwise_idxOf_distinct (list : List α) :
    (distinct list).Pairwise fun a b => list.idxOf a < list.idxOf b := by
  induction list with
  | nil => simp [distinct]
  | cons first rest ih =>
      have hlater : ∀ b ∈ (distinct rest).filter (· ≠ first),
          (first :: rest).idxOf b = rest.idxOf b + 1 := by
        intro b hb
        have hne : b ≠ first := by simpa using (List.mem_filter.mp hb).2
        exact List.idxOf_cons_ne rest hne.symm
      rw [distinct, List.pairwise_cons]
      constructor
      · intro b hb
        rw [hlater b hb, List.idxOf_cons_self]
        omega
      · refine List.Pairwise.imp_of_mem ?_ (ih.filter _)
        intro a b ha hb hlt
        rw [hlater a ha, hlater b hb]
        omega

/-- The first occurrences in a list are exactly its distinct elements. -/
theorem isFirstOccurrences_iff {firsts : List α} :
    IsFirstOccurrences list firsts ↔ firsts = distinct list := by
  have hdistinct : IsFirstOccurrences list (distinct list) :=
    ⟨nodup_distinct list, fun a => mem_distinct, pairwise_idxOf_distinct list⟩
  constructor
  · intro h
    have hperm : firsts.Perm (distinct list) := by
      rw [List.perm_ext_iff_of_nodup h.nodup hdistinct.nodup]
      intro a
      rw [h.mem_iff, hdistinct.mem_iff]
    -- Two lists of the same elements in one strict order are the same.
    refine hperm.eq_of_pairwise ?_ h.pairwise hdistinct.pairwise
    intro a b _ _ hab hba
    omega
  · rintro rfl
    exact hdistinct

end Distinct

end Memberwise
