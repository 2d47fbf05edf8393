import Mathlib.Data.List.Basic
import Memberwise.Conversion
import Memberwise.Proofs.Text.Identifiers

/-!
# Names in conversions

The identifiers that conversions are written with: the configured names, and the
closure parameters of every depth.

Main results:

- Theorem {lit}`isIdentifier_parameterName`: closure parameters are identifiers.
- Theorem {lit}`parameterName_ne`: a closure parameter below the outermost level is
  called as nothing that has no digits.
- Theorem {lit}`IsClassName.ne_parameterName`: no class is called as a closure parameter.
-/

namespace Memberwise

open Memberwise.Text

/-! ## Configured names -/

/-- Whether all configured names are identifiers. -/
structure Names.AreIdentifiers (names : Names) : Prop where
  toMap : isIdentifier names.toMap = true
  fromMap : isIdentifier names.fromMap = true
  apply : isIdentifier names.apply = true
  toString : isIdentifier names.toString = true
  mapVariable : isIdentifier names.mapVariable = true
  keyMapper : isIdentifier names.keyMapper = true
  keyVariable : isIdentifier names.keyVariable = true

/-- The default names are identifiers. -/
theorem Names.areIdentifiers_default : Names.AreIdentifiers {} := by
  constructor <;> decide

/-- Whether a name can be that of a class: an identifier whose first character is a
capital. -/
def IsClassName (name : String) : Prop :=
  isIdentifier name = true ∧ name.toList.head?.any Char.isUpper = true

instance (name : String) : Decidable (IsClassName name) :=
  inferInstanceAs (Decidable (_ ∧ _))

/-! ## Closure parameters -/

/-- The characters of a number are digits. -/
theorem isDigit_of_mem_repr {number : Nat} {c : Char} (h : c ∈ (Nat.repr number).toList) :
    c.isDigit = true := by
  rw [Nat.toList_repr] at h
  exact Nat.isDigit_of_mem_toDigits (by omega) (by omega) h

/-- Closure parameters are identifiers. -/
theorem isIdentifier_parameterName {base : String} (h : isIdentifier base = true)
    (depth : Nat) : isIdentifier (parameterName base depth) = true := by
  unfold parameterName
  split
  · exact h
  · refine isIdentifier_append h ?_
    intro c hc
    simp [isIdentifierRest, isDigit_of_mem_repr hc]

/-- A name without digits is a closure parameter of the outermost level at most. -/
theorem parameterName_ne {base name : String} (hne : base ≠ name)
    (hdigits : name.toList.any Char.isDigit = false) (depth : Nat) :
    parameterName base depth ≠ name := by
  unfold parameterName
  split
  · exact hne
  · rintro rfl
    obtain ⟨c, hc⟩ := List.exists_mem_of_ne_nil (Nat.repr depth).toList
      (by simp [Nat.toList_repr])
    have hmem : c ∈ (base ++ Nat.repr depth).toList := by
      rw [String.toList_append]
      exact List.mem_append_right _ hc
    rw [List.any_eq_false] at hdigits
    exact hdigits c hmem (isDigit_of_mem_repr hc)

/-- A closure parameter begins as its base does. -/
theorem head?_parameterName {base : String} (hbase : base.toList ≠ []) (depth : Nat) :
    (parameterName base depth).toList.head? = base.toList.head? := by
  unfold parameterName
  split
  · rfl
  · rw [String.toList_append, List.head?_append_of_ne_nil _ hbase]

/-- Closure parameters with different first characters are different. -/
theorem parameterName_ne_parameterName {left right : String} (hleft : left.toList ≠ [])
    (hright : right.toList ≠ []) (h : left.toList.head? ≠ right.toList.head?)
    (depth depth' : Nat) : parameterName left depth ≠ parameterName right depth' := by
  intro heq
  have hhead := congrArg (fun name => name.toList.head?) heq
  simp only [head?_parameterName hleft, head?_parameterName hright] at hhead
  exact h hhead

/-- Closure parameters with the same base and different depths are different. -/
theorem parameterName_inj {base : String} {depth depth' : Nat} :
    parameterName base depth = parameterName base depth' ↔ depth = depth' := by
  have hdigits : ∀ number, Nat.repr number ≠ "" := by
    intro number hempty
    have htoDigits := congrArg String.toList hempty
    rw [Nat.toList_repr] at htoDigits
    exact Nat.toDigits_ne_nil htoDigits
  constructor
  · intro h
    unfold parameterName at h
    split at h <;> split at h
    · rename_i hdepth hdepth'
      rw [hdepth, hdepth']
    · exact absurd (String.append_eq_left_iff.mp h.symm) (hdigits depth')
    · exact absurd (String.append_eq_left_iff.mp h) (hdigits depth)
    · have hread := congrArg (Nat.ofDigitChars 10 ·.toList 0) ((String.append_right_inj base).mp h)
      simpa [Nat.toList_repr] using hread
  · rintro rfl
    rfl

/-- The names that closure parameters are made from. -/
def closureBases : List String :=
  ["e", "key", "value"]

/-- Closure parameters are called the same only with the same base and the same depth. -/
theorem parameterName_eq_iff {left right : String} (hleft : left ∈ closureBases)
    (hright : right ∈ closureBases) {depth depth' : Nat} :
    parameterName left depth = parameterName right depth' ↔ left = right ∧ depth = depth' := by
  have hnonempty : ∀ base ∈ closureBases, base.toList ≠ [] := by decide
  have hheads : ∀ base ∈ closureBases, ∀ other ∈ closureBases, base ≠ other →
      base.toList.head? ≠ other.toList.head? := by
    decide
  by_cases hbase : left = right
  · subst hbase
    simp [parameterName_inj]
  · have hne := parameterName_ne_parameterName (hnonempty left hleft) (hnonempty right hright)
      (hheads left hleft right hright hbase) depth depth'
    simp [hne, hbase]

/-- No class is called as a closure parameter. -/
theorem IsClassName.ne_parameterName {name base : String} (h : IsClassName name)
    (hbase : base.toList ≠ []) (hlower : base.toList.head?.any Char.isUpper = false)
    (depth : Nat) : name ≠ parameterName base depth := by
  rintro rfl
  have hupper := h.2
  rw [head?_parameterName hbase, hlower] at hupper
  contradiction

end Memberwise
