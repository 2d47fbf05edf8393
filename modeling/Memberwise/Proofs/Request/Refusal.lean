import Memberwise.Proofs.Results
import Memberwise.Request

/-!
# Refused requests

A request is refused for its first field that is rejected, and otherwise for the name of its
class.  Neither the configuration nor the kinds of template that are asked for take part in
this, and a request that is not refused gets every template that it asks for.

Main definitions:

- {lit}`Refused`: why a class with some fields is refused.

Main results:

- Theorem {lit}`generate_eq_error_iff`: requests fail exactly as they are refused.
- Theorem {lit}`exists_fields_of_generate_eq_ok`: what requests are answered with.
- Theorem {lit}`generate_refuses_or_answers`: a request fails or succeeds as a whole, for a
  reason that its class name and its fields fix.
-/

namespace Memberwise

open Memberwise.Text

/-! ## Reasons -/

/-- Whether a description passes all checks. -/
def FieldSpec.IsAccepted (spec : FieldSpec) : Prop :=
  ∃ field, spec.resolve = .ok field

/-- A description that does not pass all checks is rejected. -/
theorem FieldSpec.not_isAccepted_iff {spec : FieldSpec} :
    ¬ spec.IsAccepted ↔ ∃ rejection, spec.resolve = .error rejection := by
  unfold IsAccepted
  cases spec.resolve <;> simp

/-- No check of a field complains about the name of a class. -/
theorem FieldSpec.resolve_ne_ofClass (spec : FieldSpec) (name : String) :
    spec.resolve ≠ .error (.invalidName .ofClass name) := by
  unfold resolve
  intro h
  split at h
  · split at h
    · split at h
      · cases h
      · dsimp only at h
        split at h
        · cases h
        · split at h <;> cases h
    · cases h
  · cases h

/-- Why a class with some described fields is refused: for the first field that is rejected,
or for its name if there is none. -/
inductive Refused (className : String) (specs : List FieldSpec) : Rejection → Prop where
  | ofField {before after : List FieldSpec} {spec : FieldSpec} {rejection : Rejection}
      (hspecs : specs = before ++ spec :: after)
      (hbefore : ∀ earlier ∈ before, earlier.IsAccepted)
      (hspec : spec.resolve = .error rejection) : Refused className specs rejection
  | ofName (hspecs : ∀ spec ∈ specs, spec.IsAccepted)
      (hname : isIdentifier className = false) :
      Refused className specs (.invalidName .ofClass className)

/-- The fields of a request are rejected as the first rejected one is. -/
theorem resolve_eq_error_iff {request : Request} {rejection : Rejection} :
    request.resolve = .error rejection ↔
      ∃ before spec after, request.fields.specs = before ++ spec :: after ∧
        (∀ earlier ∈ before, earlier.IsAccepted) ∧ spec.resolve = .error rejection :=
  mapM_eq_error_iff

/-! ## Requests -/

section Requests

variable {request : Request} {config : Config} {kinds : List TemplateKind}

/-- A request with a rejected field fails as its fields do. -/
theorem generate_of_resolve_error {rejection : Rejection}
    (h : request.resolve = .error rejection) :
    generate request config kinds = .error rejection := by
  rw [generate, h]
  rfl

/-- A request whose fields are accepted is answered as its class name allows. -/
theorem generate_of_resolve_ok {fields : List Field} (h : request.resolve = .ok fields) :
    generate request config kinds =
      if isIdentifier request.className then
        .ok ((distinct kinds).map fun kind =>
          (templateOf kind request.className fields config).replacing request.existingMembers)
      else
        .error (.invalidName .ofClass request.className) := by
  rw [generate, h]
  unfold templates checkClassName
  split
  · simp [bind, Except.bind, pure, Except.pure, Function.comp_def]
  · rfl

/-- A request fails exactly as its class is refused. -/
theorem generate_eq_error_iff {rejection : Rejection} :
    generate request config kinds = .error rejection ↔
      Refused request.className request.fields.specs rejection := by
  cases hresolve : request.resolve with
  | error reason =>
      rw [generate_of_resolve_error hresolve]
      rcases resolve_eq_error_iff.mp hresolve with ⟨before, spec, after, hspecs, hbefore, hspec⟩
      constructor
      · intro h
        cases h
        exact .ofField hspecs hbefore hspec
      · intro h
        cases h with
        | ofField hspecs' hbefore' hspec' =>
            have herror := resolve_eq_error_iff.mpr ⟨_, _, _, hspecs', hbefore', hspec'⟩
            rw [hresolve] at herror
            cases herror
            rfl
        | ofName hall _ =>
            exact absurd (hall spec (by simp [hspecs]))
              (FieldSpec.not_isAccepted_iff.mpr ⟨reason, hspec⟩)
  | ok fields =>
      have hall : ∀ spec ∈ request.fields.specs, spec.IsAccepted :=
        exists_of_mapM_eq_ok hresolve
      rw [generate_of_resolve_ok hresolve]
      constructor
      · intro h
        split at h
        · contradiction
        · rename_i hname
          cases h
          exact .ofName hall (by simpa using hname)
      · intro h
        cases h with
        | ofField hspecs hbefore hspec =>
            have herror := resolve_eq_error_iff.mpr ⟨_, _, _, hspecs, hbefore, hspec⟩
            rw [hresolve] at herror
            contradiction
        | ofName _ hname => rw [if_neg (by simp [hname])]

/-- A class is refused for its name only if all its fields are accepted. -/
theorem refused_ofClass_iff {className name : String} {specs : List FieldSpec} :
    Refused className specs (.invalidName .ofClass name) ↔
      (∀ spec ∈ specs, spec.IsAccepted) ∧ isIdentifier className = false ∧ name = className := by
  constructor
  · intro h
    cases h with
    | ofField _ _ hspec => exact absurd hspec (FieldSpec.resolve_ne_ofClass _ _)
    | ofName hspecs hname => exact ⟨hspecs, hname, rfl⟩
  · rintro ⟨hspecs, hname, rfl⟩
    exact .ofName hspecs hname

/-- A class is refused exactly if one of its fields is rejected or its name is not an
identifier. -/
theorem exists_refused_iff {className : String} {specs : List FieldSpec} :
    (∃ rejection, Refused className specs rejection) ↔
      (∃ spec ∈ specs, ∃ rejection, spec.resolve = .error rejection) ∨
        isIdentifier className = false := by
  constructor
  · rintro ⟨rejection, h⟩
    cases h with
    | ofField hspecs _ hspec => exact Or.inl ⟨_, by simp [hspecs], rejection, hspec⟩
    | ofName _ hname => exact Or.inr hname
  · intro h
    cases hall : specs.mapM FieldSpec.resolve with
    | error rejection =>
        rcases mapM_eq_error_iff.mp hall with ⟨before, spec, after, hspecs, hbefore, hspec⟩
        exact ⟨rejection, .ofField hspecs hbefore hspec⟩
    | ok fields =>
        have haccepted := exists_of_mapM_eq_ok hall
        rcases h with ⟨spec, hspec, hrejected⟩ | hname
        · exact absurd (haccepted spec hspec) (FieldSpec.not_isAccepted_iff.mpr hrejected)
        · exact ⟨_, .ofName haccepted hname⟩

/-- A template is of the kind that it was made for. -/
theorem kind_templateOf (kind : TemplateKind) (className : String) (fields : List Field)
    (config : Config) : (templateOf kind className fields config).kind = kind := by
  cases kind <;> rfl

/-- A request that is answered gets the templates of its kinds, for the fields that it
describes. -/
theorem exists_fields_of_generate_eq_ok {generated : List Template}
    (h : generate request config kinds = .ok generated) :
    ∃ fields, request.resolve = .ok fields ∧ isIdentifier request.className = true ∧
      generated = (distinct kinds).map fun kind =>
        (templateOf kind request.className fields config).replacing request.existingMembers := by
  cases hresolve : request.resolve with
  | error reason =>
      rw [generate_of_resolve_error hresolve] at h
      contradiction
  | ok fields =>
      rw [generate_of_resolve_ok hresolve] at h
      split at h
      · rename_i hname
        cases h
        exact ⟨fields, rfl, hname, rfl⟩
      · contradiction

/-- A request that is answered gets every kind that it asks for, once. -/
theorem kinds_of_generate_eq_ok {generated : List Template}
    (h : generate request config kinds = .ok generated) :
    generated.map Template.kind = distinct kinds := by
  rcases exists_fields_of_generate_eq_ok h with ⟨fields, -, -, rfl⟩
  rw [List.map_map]
  refine List.map_id'' ?_ _
  intro kind
  exact kind_templateOf kind request.className fields config

/-- A request fails or succeeds as a whole.  It fails exactly if one of its fields is rejected
or its class name is not an identifier: as the first rejected field does, or because of the
class name if there is none.  The members that exist already, the configuration and the kinds
make no difference to this, and a request that does not fail gets each kind once. -/
theorem generate_refuses_or_answers (request : Request) (config : Config)
    (kinds : List TemplateKind) :
    ((∃ rejection, generate request config kinds = .error rejection) ↔
        (∃ spec ∈ request.fields.specs, ∃ rejection, spec.resolve = .error rejection) ∨
          isIdentifier request.className = false) ∧
      (∀ rejection, generate request config kinds = .error rejection ↔
        Refused request.className request.fields.specs rejection) ∧
      (∀ name, generate request config kinds = .error (.invalidName .ofClass name) ↔
        (∀ spec ∈ request.fields.specs, spec.IsAccepted) ∧
          isIdentifier request.className = false ∧ name = request.className) ∧
      (∀ existingMembers config' kinds' rejection,
        generate { request with existingMembers } config' kinds' = .error rejection ↔
          generate request config kinds = .error rejection) ∧
      ((∃ rejection, generate request config kinds = .error rejection) ∨
        ∃ generated, generate request config kinds = .ok generated ∧
          generated.map Template.kind = distinct kinds) := by
  refine ⟨?_, fun _ => generate_eq_error_iff, ?_, ?_, ?_⟩
  · rw [← exists_refused_iff]
    exact exists_congr fun _ => generate_eq_error_iff
  · intro name
    exact generate_eq_error_iff.trans refused_ofClass_iff
  · intro existingMembers config' kinds' rejection
    rw [generate_eq_error_iff, generate_eq_error_iff]
  · cases hgenerate : generate request config kinds with
    | error rejection => exact Or.inl ⟨rejection, rfl⟩
    | ok generated => exact Or.inr ⟨generated, rfl, kinds_of_generate_eq_ok hgenerate⟩

end Requests

end Memberwise
