import Mathlib.Data.List.Forall2

/-!
# Computations that may fail

What it takes for a computation in parts to succeed, and where it fails if it does not.

Main definitions:

- {lit}`Corresponds`: two computations that fail alike, or succeed with related values.

Main results:

- Theorem {lit}`bind_eq_ok_iff`: a computation in two parts succeeds if both parts do.
- Theorem {lit}`mapM_eq_error_iff`: a traversal fails as its first failing element does.
- Theorem {lit}`forall₂_of_mapM_eq_ok`: a traversal that succeeds does so at every element, in
  order.
- Theorems {lit}`exists_of_mapM_eq_ok` and {lit}`exists_mapM_eq_ok`: it succeeds exactly if it
  does so for every element.
-/

namespace Memberwise

variable {ε α β : Type}

/-! ## Parts -/

/-- A computation in two parts succeeds if both parts do. -/
theorem bind_eq_ok_iff {first : Except ε α} {next : α → Except ε β} {b : β} :
    (first >>= next) = .ok b ↔ ∃ a, first = .ok a ∧ next a = .ok b := by
  cases first with
  | error error => simp [bind, Except.bind]
  | ok a => simp [bind, Except.bind]

/-- Behind a part that succeeds the next one goes on with its value. -/
@[simp]
theorem ok_bind (a : α) (next : α → Except ε β) : (Except.ok a >>= next) = next a :=
  rfl

/-! ## Two computations -/

/-- Whether two computations correspond: both fail for the same reason, or both succeed with values
that are related. -/
inductive Corresponds (related : α → β → Prop) : Except ε α → Except ε β → Prop where
  | error (error : ε) : Corresponds related (.error error) (.error error)
  | ok {a : α} {b : β} (h : related a b) : Corresponds related (.ok a) (.ok b)

/-- Computations in two parts correspond if both parts do. -/
theorem Corresponds.bind {α' β' : Type} {related : α → β → Prop} {related' : α' → β' → Prop}
    {first : Except ε α} {first' : Except ε β} {next : α → Except ε α'} {next' : β → Except ε β'}
    (h : Corresponds related first first')
    (hnext : ∀ a b, related a b → Corresponds related' (next a) (next' b)) :
    Corresponds related' (first >>= next) (first' >>= next') := by
  cases h with
  | error error => exact .error error
  | ok h => exact hnext _ _ h

/-! ## Traversals -/

variable {f : α → Except ε β}

/-- A traversal fails as its first failing element does, whatever follows that element. -/
theorem mapM_eq_error_iff {list : List α} {error : ε} :
    list.mapM f = .error error ↔
      ∃ before a after, list = before ++ a :: after ∧
        (∀ earlier ∈ before, ∃ result, f earlier = .ok result) ∧ f a = .error error := by
  induction list with
  | nil =>
      constructor
      · intro h
        cases h
      · rintro ⟨before, a, after, hlist, -⟩
        simp at hlist
  | cons first rest ih =>
      rw [List.mapM_cons]
      cases hfirst : f first with
      | error reason =>
          constructor
          · intro h
            cases h
            exact ⟨[], first, rest, rfl, by simp, hfirst⟩
          · rintro ⟨before, a, after, hlist, hbefore, ha⟩
            cases before with
            | nil =>
                cases hlist
                rw [hfirst] at ha
                cases ha
                rfl
            | cons earlier before =>
                cases hlist
                rcases hbefore first (by simp) with ⟨result, hresult⟩
                rw [hfirst] at hresult
                contradiction
      | ok result =>
          have htail : (do let results ← rest.mapM f; pure (result :: results)) = .error error ↔
              rest.mapM f = .error error := by
            cases rest.mapM f <;> simp [bind, Except.bind, pure, Except.pure]
          refine htail.trans (ih.trans ?_)
          constructor
          · rintro ⟨before, a, after, rfl, hbefore, ha⟩
            refine ⟨first :: before, a, after, rfl, ?_, ha⟩
            intro earlier hearlier
            rcases List.mem_cons.mp hearlier with rfl | hearlier
            · exact ⟨result, hfirst⟩
            · exact hbefore earlier hearlier
          · rintro ⟨before, a, after, hlist, hbefore, ha⟩
            cases before with
            | nil =>
                cases hlist
                rw [hfirst] at ha
                contradiction
            | cons earlier before =>
                cases hlist
                refine ⟨before, a, after, rfl, ?_, ha⟩
                intro other hother
                exact hbefore other (by simp [hother])

/-- A traversal that succeeds does so at every element, in order. -/
theorem forall₂_of_mapM_eq_ok {list : List α} {results : List β} (h : list.mapM f = .ok results) :
    List.Forall₂ (fun a b => f a = .ok b) list results := by
  induction list generalizing results with
  | nil =>
      cases h
      exact .nil
  | cons a list ih =>
      rw [List.mapM_cons] at h
      rcases bind_eq_ok_iff.mp h with ⟨b, hb, h⟩
      rcases bind_eq_ok_iff.mp h with ⟨others, hothers, h⟩
      cases h
      exact .cons hb (ih hothers)

/-- A traversal that succeeds does so for every element. -/
theorem exists_of_mapM_eq_ok {list : List α} {results : List β}
    (h : list.mapM f = .ok results) : ∀ a ∈ list, ∃ result, f a = .ok result := by
  have hresults := forall₂_of_mapM_eq_ok h
  clear h
  induction hresults with
  | nil => simp
  | cons hfirst _ ih => exact List.forall_mem_cons.mpr ⟨⟨_, hfirst⟩, ih⟩

/-- A traversal succeeds if it does so for every element. -/
theorem exists_mapM_eq_ok {list : List α} (h : ∀ a ∈ list, ∃ result, f a = .ok result) :
    ∃ results, list.mapM f = .ok results := by
  cases hresults : list.mapM f with
  | ok results => exact ⟨results, rfl⟩
  | error error =>
      rcases mapM_eq_error_iff.mp hresults with ⟨before, a, after, hlist, -, ha⟩
      rcases h a (by simp [hlist]) with ⟨result, hresult⟩
      rw [ha] at hresult
      contradiction

/-- A computation that succeeds for all members of a list succeeds for the list. -/
theorem mapM_map_eq_some {α β γ : Type} {members : List α} {before : α → β}
    {f : β → Option γ} {after : α → γ}
    (h : ∀ member ∈ members, f (before member) = some (after member)) :
    (members.map before).mapM f = some (members.map after) := by
  induction members with
  | nil => rfl
  | cons member members ih =>
      have hhead := h member (by simp)
      have htail := ih fun other hother => h other (by simp [hother])
      rw [List.map_cons, List.mapM_cons, hhead, htail]
      rfl

end Memberwise
