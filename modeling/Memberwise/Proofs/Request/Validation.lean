import Memberwise.Field
import Memberwise.Proofs.Signature.Levels
import Memberwise.Proofs.Text.Pattern

/-!
# The checks of a field

A description of a field is checked four times: its storage name, its public name, the presence of
a signature, and what it declares about null.  The first check that fails decides the rejection,
and a description that passes all of them is completed.

Main definitions:

- {lit}`FieldSpec.PassesChecks`: whether a description passes all checks.
- {lit}`FieldSpec.FailsCheck`: why a description fails the first check that it does not pass.
- {lit}`FieldSpec.Completes`: whether a field is a description with its missing parts filled in.

Main results:

- Theorem {lit}`nullable_typeOf_iff`: a signature is nullable if it ends with its mark.
- Theorem {lit}`passesChecks_or_failsCheck`: a description passes or fails.
- Theorem {lit}`resolve_iff_checks`: what comes of every description.
-/

namespace Memberwise

open Memberwise.Text Memberwise.Dart

/-! ## Signatures -/

namespace Signature

/-- A signature is nullable exactly if a question mark ends it, but for blanks. -/
theorem nullable_typeOf_iff {signature : String} :
    (typeOf signature).nullable = true ↔ (trim signature.toList).getLast? = some '?' := by
  rw [typeOf, read_eq, nullable_type]
  by_cases hlast : (trim signature.toList).getLast? = some '?'
  · rcases List.getLast?_eq_some_iff.mp hlast with ⟨text, htext⟩
    rw [stripNullMark_of_trim_eq_concat htext]
    simp [hlast]
  · rw [stripNullMark_of_getLast?_ne hlast]
    simp [hlast]

/-- A trimmed signature stands for the same type. -/
theorem typeOf_trim (signature : String) :
    typeOf (String.ofList (trim signature.toList)) = typeOf signature := by
  rw [typeOf, String.toList_ofList, read_trim, typeOf]

end Signature

/-! ## Checks -/

namespace FieldSpec

/-- Whether a description passes all checks: both of its names match the pattern of identifiers as
a whole, it has a signature that is not blank, and what it declares about null, if anything, is
whether the trimmed signature ends in a question mark. -/
structure PassesChecks (spec : FieldSpec) (signature : String) : Prop where
  storageName : spec.storageName.toList ∈ identifierPattern.matches'
  publicName : (spec.publicName?.getD spec.storageName).toList ∈ identifierPattern.matches'
  given : spec.signature? = some signature
  notBlank : ¬ AllBlank signature.toList
  nullability : ∀ declared ∈ spec.nullable?,
    (declared = true ↔ (trim signature.toList).getLast? = some '?')

/-- Why a description fails the first of the four checks that it does not pass. -/
inductive FailsCheck (spec : FieldSpec) : Rejection → Prop where
  | storageName (h : spec.storageName.toList ∉ identifierPattern.matches') :
      FailsCheck spec (.invalidName .ofField spec.storageName)
  | publicName (hstorage : spec.storageName.toList ∈ identifierPattern.matches')
      (h : (spec.publicName?.getD spec.storageName).toList ∉ identifierPattern.matches') :
      FailsCheck spec (.invalidName .ofAlias (spec.publicName?.getD spec.storageName))
  | signature (hstorage : spec.storageName.toList ∈ identifierPattern.matches')
      (hpublic : (spec.publicName?.getD spec.storageName).toList ∈ identifierPattern.matches')
      (h : ∀ signature ∈ spec.signature?, AllBlank signature.toList) :
      FailsCheck spec (.unresolvedType spec.storageName)
  | nullability {signature : String} {declared : Bool}
      (hstorage : spec.storageName.toList ∈ identifierPattern.matches')
      (hpublic : (spec.publicName?.getD spec.storageName).toList ∈ identifierPattern.matches')
      (hgiven : spec.signature? = some signature) (hnotBlank : ¬ AllBlank signature.toList)
      (hdeclared : spec.nullable? = some declared)
      (h : ¬ (declared = true ↔ (trim signature.toList).getLast? = some '?')) :
      FailsCheck spec (.nullabilityMismatch spec.storageName
        (String.ofList (trim signature.toList)) declared)

/-- Whether a field is a description with a signature and with its missing parts filled in: the
public name is the storage name if it is missing, and the map key is the public name.  The
signature is trimmed, which leaves its type as it is. -/
structure Completes (spec : FieldSpec) (signature : String) (field : Field) : Prop where
  storageName : field.storageName = spec.storageName
  publicName : field.publicName = spec.publicName?.getD spec.storageName
  mapKey : field.mapKey = spec.mapKey?.getD field.publicName
  trimmed : field.signature = String.ofList (trim signature.toList)
  type_stored : field.type = Signature.typeOf field.signature
  type_given : field.type = Signature.typeOf signature

/-- A description passes all checks or fails one. -/
theorem passesChecks_or_failsCheck (spec : FieldSpec) :
    (∃ signature, spec.PassesChecks signature) ∨ ∃ rejection, spec.FailsCheck rejection := by
  by_cases hstorage : spec.storageName.toList ∈ identifierPattern.matches'
  swap
  · exact Or.inr ⟨_, .storageName hstorage⟩
  by_cases hpublic : (spec.publicName?.getD spec.storageName).toList ∈ identifierPattern.matches'
  swap
  · exact Or.inr ⟨_, .publicName hstorage hpublic⟩
  by_cases hsignature : ∀ signature ∈ spec.signature?, AllBlank signature.toList
  · exact Or.inr ⟨_, .signature hstorage hpublic hsignature⟩
  rcases not_forall₂.mp hsignature with ⟨signature, hgiven, hnotBlank⟩
  by_cases hnull : ∀ declared ∈ spec.nullable?,
      (declared = true ↔ (trim signature.toList).getLast? = some '?')
  · exact Or.inl ⟨signature, hstorage, hpublic, hgiven, hnotBlank, hnull⟩
  · rcases not_forall₂.mp hnull with ⟨declared, hdeclared, hmismatch⟩
    exact Or.inr ⟨_, .nullability hstorage hpublic hgiven hnotBlank hdeclared hmismatch⟩

section Resolution

variable {spec : FieldSpec} {signature : String}

/-- A signature that is not blank is trimmed. -/
theorem signature_of_not_allBlank (hgiven : spec.signature? = some signature)
    (hnotBlank : ¬ AllBlank signature.toList) :
    spec.signature = some (String.ofList (trim signature.toList)) := by
  rw [FieldSpec.signature, hgiven]
  dsimp only
  split
  · rename_i hnil
    exact absurd (trim_eq_nil_iff.mp hnil) hnotBlank
  · rfl

/-- A signature that is missing or blank is none. -/
theorem signature_of_allBlank (h : ∀ signature ∈ spec.signature?, AllBlank signature.toList) :
    spec.signature = none := by
  rw [FieldSpec.signature]
  split
  · rfl
  · rename_i signature hgiven
    rw [trim_eq_nil_iff.mpr (h signature hgiven)]

/-- What comes of a description with two identifiers and a signature. -/
theorem resolve_of_signature (hstorage : isIdentifier spec.storageName = true)
    (hpublic : isIdentifier spec.publicName = true) {trimmed : String}
    (hsignature : spec.signature = some trimmed) :
    spec.resolve =
      match spec.nullable? with
      | none => .ok ⟨spec.storageName, spec.publicName, spec.mapKey, trimmed, hstorage, hpublic⟩
      | some declared =>
          if declared = (Signature.typeOf trimmed).nullable then
            .ok ⟨spec.storageName, spec.publicName, spec.mapKey, trimmed, hstorage, hpublic⟩
          else .error (.nullabilityMismatch spec.storageName trimmed declared) := by
  rw [resolve, dif_pos hstorage, dif_pos hpublic, hsignature]
  rfl

/-- What is declared about null is compared with the mark of the given signature. -/
theorem eq_nullable_trim_iff {declared : Bool} :
    declared = (Signature.typeOf (String.ofList (trim signature.toList))).nullable ↔
      (declared = true ↔ (trim signature.toList).getLast? = some '?') := by
  rw [Signature.typeOf_trim, ← Signature.nullable_typeOf_iff, Bool.eq_iff_iff]

/-- A description that passes all checks is completed. -/
theorem PassesChecks.exists_completes (h : spec.PassesChecks signature) :
    ∃ field, spec.resolve = .ok field ∧ spec.Completes signature field := by
  have hstorage := isIdentifier_iff_mem_matches'.mpr h.storageName
  have hpublic : isIdentifier spec.publicName = true :=
    isIdentifier_iff_mem_matches'.mpr h.publicName
  have hsignature := signature_of_not_allBlank h.given h.notBlank
  let field : Field := ⟨spec.storageName, spec.publicName, spec.mapKey,
    String.ofList (trim signature.toList), hstorage, hpublic⟩
  refine ⟨field, ?_, ?_⟩
  · rw [resolve_of_signature hstorage hpublic hsignature]
    split
    · rfl
    · rename_i declared hdeclared
      rw [if_pos (eq_nullable_trim_iff.mpr (h.nullability declared hdeclared))]
  · exact ⟨rfl, rfl, rfl, rfl, rfl, Signature.typeOf_trim signature⟩

/-- A description that fails a check is rejected for it. -/
theorem FailsCheck.resolve_eq {rejection : Rejection} (h : spec.FailsCheck rejection) :
    spec.resolve = .error rejection := by
  cases h with
  | storageName hname => rw [resolve, dif_neg (mt isIdentifier_iff_mem_matches'.mp hname)]
  | publicName hstorage hname =>
      have hpublic : ¬ isIdentifier spec.publicName = true :=
        mt isIdentifier_iff_mem_matches'.mp hname
      rw [resolve, dif_pos (isIdentifier_iff_mem_matches'.mpr hstorage), dif_neg hpublic]
      rfl
  | signature hstorage hpublic hblank =>
      have hpublic : isIdentifier spec.publicName = true :=
        isIdentifier_iff_mem_matches'.mpr hpublic
      rw [resolve, dif_pos (isIdentifier_iff_mem_matches'.mpr hstorage), dif_pos hpublic,
        signature_of_allBlank hblank]
  | nullability hstorage hpublic hgiven hnotBlank hdeclared hmismatch =>
      rw [resolve_of_signature (isIdentifier_iff_mem_matches'.mpr hstorage)
        (isIdentifier_iff_mem_matches'.mpr hpublic) (signature_of_not_allBlank hgiven hnotBlank),
        hdeclared]
      exact if_neg (mt eq_nullable_trim_iff.mp hmismatch)

end Resolution

/-- A description that is accepted has passed all checks and is completed. -/
theorem exists_completes_of_resolve_eq_ok {spec : FieldSpec} {field : Field}
    (h : spec.resolve = .ok field) :
    ∃ signature, spec.PassesChecks signature ∧ spec.Completes signature field := by
  rcases spec.passesChecks_or_failsCheck with ⟨signature, hpasses⟩ | ⟨rejection, hfails⟩
  · rcases hpasses.exists_completes with ⟨completed, hcompleted, hcompletes⟩
    rw [hcompleted] at h
    cases h
    exact ⟨signature, hpasses, hcompletes⟩
  · rw [hfails.resolve_eq] at h
    contradiction

/-- A description that is rejected fails the check that it is rejected for. -/
theorem failsCheck_of_resolve_eq_error {spec : FieldSpec} {rejection : Rejection}
    (h : spec.resolve = .error rejection) : spec.FailsCheck rejection := by
  rcases spec.passesChecks_or_failsCheck with ⟨signature, hpasses⟩ | ⟨other, hfails⟩
  · rcases hpasses.exists_completes with ⟨completed, hcompleted, -⟩
    rw [hcompleted] at h
    contradiction
  · rw [hfails.resolve_eq] at h
    cases h
    exact hfails

/-- A description is accepted exactly if it passes all four checks, and the field is the description
with its missing parts filled in.  Otherwise it is rejected for the first check that it fails. -/
theorem resolve_iff_checks (spec : FieldSpec) :
    ((∃ field, spec.resolve = .ok field) ↔ ∃ signature, spec.PassesChecks signature) ∧
      (∀ rejection, spec.resolve = .error rejection ↔ spec.FailsCheck rejection) ∧
      ∀ field, spec.resolve = .ok field →
        ∃ signature, spec.signature? = some signature ∧ spec.Completes signature field := by
  refine ⟨⟨?_, ?_⟩, ?_, ?_⟩
  · rintro ⟨field, hfield⟩
    rcases exists_completes_of_resolve_eq_ok hfield with ⟨signature, hpasses, -⟩
    exact ⟨signature, hpasses⟩
  · rintro ⟨signature, hpasses⟩
    rcases hpasses.exists_completes with ⟨field, hfield, -⟩
    exact ⟨field, hfield⟩
  · intro rejection
    exact ⟨failsCheck_of_resolve_eq_error, FailsCheck.resolve_eq⟩
  · intro field hfield
    rcases exists_completes_of_resolve_eq_ok hfield with ⟨signature, hpasses, hcompletes⟩
    exact ⟨signature, hpasses.given, hcompletes⟩

end FieldSpec

end Memberwise
