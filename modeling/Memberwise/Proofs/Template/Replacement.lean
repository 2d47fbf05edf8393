import Mathlib.Data.List.Dedup
import Mathlib.Data.List.Flatten
import Mathlib.Data.List.Nodup
import Memberwise.Proofs.Request.Refusal

/-!
# Replacing members

A host inserts templates one after another: it deletes the members that a template replaces and
adds the members of the template.  However it places these, a class that declares no name twice
still declares none twice afterwards, and doing the same again changes no name.

Main definitions:

- {lit}`Template.Inserts`: the insertion of one template.
- {lit}`InsertsAll`: the insertion of several templates in order.
- {lit}`Replaces`: whether some templates delete exactly those of their members that exist.

Main results:

- Theorem {lit}`insertsAll_insertAll`: templates can be inserted in every class.
- Theorem {lit}`Replaces.step`: one insertion leaves what the templates behind it rely on.
- Theorems {lit}`Replaces.nodup_names`, {lit}`Replaces.sublist` and
  {lit}`Replaces.mem_of_mem_members`: what comes of a class.
- Theorem {lit}`generate_replaces`: generated templates delete exactly what exists.
- Theorem {lit}`generate_idempotent`: generating and inserting again changes no name.
-/

namespace Memberwise

/-! ## Insertion -/

/-- The names of some members. -/
def memberNamesOf (members : List Member) : List String :=
  members.map Member.name

namespace Template

/-- The members that are left of a class when those that a template replaces are deleted. -/
def remaining (template : Template) (members : List Member) : List Member :=
  members.filter fun member => member.name ∉ template.delete

/-- Whether a host may have turned some members into others by inserting a template: the
replaced members are gone, the others are still in their order, and the members of the template
have been added, at any places. -/
structure Inserts (template : Template) (before after : List Member) : Prop where
  sublist : (template.remaining before).Sublist after
  perm : after.Perm (template.remaining before ++ template.members)

/-- Adding the members of a template behind all others is an insertion. -/
theorem inserts_append (template : Template) (before : List Member) :
    template.Inserts before (template.remaining before ++ template.members) where
  sublist := List.sublist_append_left _ _
  perm := .refl _

end Template

/-- Whether a host may have turned some members into others by inserting templates in order. -/
inductive InsertsAll : List Template → List Member → List Member → Prop where
  | nil (members : List Member) : InsertsAll [] members members
  | cons {template : Template} {templates : List Template} {before next after : List Member}
      (hfirst : template.Inserts before next) (hrest : InsertsAll templates next after) :
      InsertsAll (template :: templates) before after

/-- The members of a class after templates have been inserted in order, each behind all members
that are left. -/
def insertAll (templates : List Template) (members : List Member) : List Member :=
  templates.foldl (fun members template => template.remaining members ++ template.members) members

/-- Adding the members of templates behind all others is an insertion. -/
theorem insertsAll_insertAll (templates : List Template) (members : List Member) :
    InsertsAll templates members (insertAll templates members) := by
  induction templates generalizing members with
  | nil => exact .nil members
  | cons template templates ih => exact .cons (template.inserts_append members) (ih _)

/-- The names that some templates define. -/
def definedNames (templates : List Template) : List String :=
  templates.flatMap Template.memberNames

/-- Whether some templates can replace members of a class: no name is declared or defined twice,
and every template deletes exactly those of its members that exist. -/
structure Replaces (templates : List Template) (members : List Member) : Prop where
  nodup_declared : (memberNamesOf members).Nodup
  nodup_defined : (definedNames templates).Nodup
  mem_delete_iff : ∀ template ∈ templates, ∀ name,
    name ∈ template.delete ↔ name ∈ template.memberNames ∧ name ∈ memberNamesOf members

namespace Replaces

variable {template : Template} {templates : List Template} {before next after : List Member}

/-- A template deletes no members but its own. -/
theorem mem_remaining_of_not_mem (h : Replaces (template :: templates) before) {member : Member}
    (hmember : member ∈ before) (hname : member.name ∉ template.memberNames) :
    member ∈ template.remaining before := by
  have hdelete : member.name ∉ template.delete := by
    rw [h.mem_delete_iff template (by simp)]
    exact fun hdeleted => hname hdeleted.1
  exact List.mem_filter.mpr ⟨hmember, by simpa using hdelete⟩

/-- What is left of a class does not have the names of the template. -/
theorem not_mem_memberNames (h : Replaces (template :: templates) before) {member : Member}
    (hmember : member ∈ template.remaining before) : member.name ∉ template.memberNames := by
  rcases List.mem_filter.mp hmember with ⟨hdeclared, hkept⟩
  intro hname
  have hdelete := (h.mem_delete_iff template (by simp) member.name).mpr
    ⟨hname, List.mem_map_of_mem hdeclared⟩
  simp [hdelete] at hkept

/-- After an insertion, a class has its names and those of the template. -/
theorem mem_names_of_inserts (h : Replaces (template :: templates) before)
    (hfirst : template.Inserts before next) (name : String) :
    name ∈ memberNamesOf next ↔ name ∈ memberNamesOf before ∨ name ∈ template.memberNames := by
  have hnext : name ∈ memberNamesOf next ↔
      name ∈ memberNamesOf (template.remaining before) ∨ name ∈ template.memberNames := by
    rw [memberNamesOf, (hfirst.perm.map Member.name).mem_iff, List.map_append, List.mem_append]
    rfl
  rw [hnext]
  constructor
  · rintro (hkept | hdefined)
    · exact Or.inl ((List.filter_sublist.map Member.name).subset hkept)
    · exact Or.inr hdefined
  · rintro (hdeclared | hdefined)
    · by_cases hname : name ∈ template.memberNames
      · exact Or.inr hname
      · rcases List.mem_map.mp hdeclared with ⟨member, hmember, rfl⟩
        exact Or.inl (List.mem_map_of_mem (h.mem_remaining_of_not_mem hmember hname))
    · exact Or.inr hdefined

/-- One insertion leaves what the templates behind it rely on. -/
theorem step (h : Replaces (template :: templates) before)
    (hfirst : template.Inserts before next) : Replaces templates next := by
  have hdefined := h.nodup_defined
  rw [definedNames, List.flatMap_cons, List.nodup_append'] at hdefined
  obtain ⟨hown, hothers, hdisjoint⟩ := hdefined
  refine ⟨?_, hothers, ?_⟩
  · rw [memberNamesOf, (hfirst.perm.map Member.name).nodup_iff, List.map_append,
      List.nodup_append']
    refine ⟨(List.filter_sublist.map Member.name).nodup h.nodup_declared, hown, ?_⟩
    intro name hkept hname
    rcases List.mem_map.mp hkept with ⟨member, hmember, rfl⟩
    exact h.not_mem_memberNames hmember hname
  · intro other hother name
    rw [h.mem_delete_iff other (by simp [hother])]
    refine and_congr_right fun hname => ?_
    have hforeign : name ∉ template.memberNames := fun hmem =>
      hdisjoint hmem (List.mem_flatMap.mpr ⟨other, hother, hname⟩)
    rw [h.mem_names_of_inserts hfirst name]
    exact (or_iff_left hforeign).symm

/-- After all insertions, a class has its names and those that the templates define. -/
theorem mem_names_iff (h : Replaces templates before) (hinserts : InsertsAll templates before after)
    (name : String) :
    name ∈ memberNamesOf after ↔ name ∈ memberNamesOf before ∨ name ∈ definedNames templates := by
  induction hinserts with
  | nil members => simp [definedNames]
  | cons hfirst hrest ih =>
      rw [ih (h.step hfirst), h.mem_names_of_inserts hfirst name, or_assoc, definedNames,
        definedNames, List.flatMap_cons, List.mem_append]

/-- After all insertions, no name is declared twice. -/
theorem nodup_names (h : Replaces templates before)
    (hinserts : InsertsAll templates before after) : (memberNamesOf after).Nodup := by
  induction hinserts with
  | nil members => exact h.nodup_declared
  | cons hfirst hrest ih => exact ih (h.step hfirst)

/-- After all insertions, the members that no template defines are still in their order. -/
theorem sublist (h : Replaces templates before) (hinserts : InsertsAll templates before after) :
    (before.filter fun member => member.name ∉ definedNames templates).Sublist after := by
  induction hinserts with
  | nil members => exact List.filter_sublist
  | @cons template templates before next after hfirst hrest ih =>
      have hrest := ih (h.step hfirst)
      refine List.Sublist.trans ?_ hrest
      have hremaining : before.filter (fun member =>
          member.name ∉ definedNames (template :: templates)) =
          (template.remaining before).filter fun member =>
            member.name ∉ definedNames templates := by
        rw [Template.remaining, List.filter_filter]
        refine List.filter_congr fun member hmember => ?_
        have hdelete := h.mem_delete_iff template (by simp) member.name
        have hdeclared : member.name ∈ memberNamesOf before := List.mem_map_of_mem hmember
        simp [definedNames, hdelete, hdeclared, Bool.and_comm]
      rw [hremaining]
      exact hfirst.sublist.filter _

/-- After all insertions, every member of every template is there. -/
theorem mem_of_mem_members (h : Replaces templates before)
    (hinserts : InsertsAll templates before after) :
    ∀ template ∈ templates, ∀ member ∈ template.members, member ∈ after := by
  induction hinserts with
  | nil members => simp
  | @cons template templates before next after hfirst hrest ih =>
      have hnext := h.step hfirst
      rw [List.forall_mem_cons]
      refine ⟨?_, ih hnext⟩
      intro member hmember
      have hadded : member ∈ next := hfirst.perm.mem_iff.mpr (List.mem_append_right _ hmember)
      -- The templates behind this one define other names, so they leave the member alone.
      have hforeign : member.name ∉ definedNames templates := by
        have hdefined := h.nodup_defined
        rw [definedNames, List.flatMap_cons, List.nodup_append'] at hdefined
        exact hdefined.2.2 (List.mem_map_of_mem hmember)
      exact (hnext.sublist hrest).subset (List.mem_filter.mpr ⟨hadded, by simpa using hforeign⟩)

end Replaces

/-! ## Generated templates -/

/-- Whether the members of a class are called differently. -/
def Names.AreDistinct (names : Names) : Prop :=
  [names.toMap, names.fromMap, names.apply, names.toString].Nodup

instance (names : Names) : Decidable names.AreDistinct :=
  inferInstanceAs (Decidable (List.Nodup _))

section Generation

variable {request : Request} {config : Config} {kinds : List TemplateKind}
  {templates : List Template}

/-- The names that the template of a kind defines. -/
def definedBy (names : Names) : TemplateKind → List String
  | .mapTemplate => [names.toMap, names.fromMap]
  | .applyMethod => [names.apply]
  | .toString => [names.toString]

/-- The template of a kind defines the names of its members. -/
theorem memberNames_templateOf (kind : TemplateKind) (className : String) (fields : List Field) :
    (templateOf kind className fields config).memberNames = definedBy config.names kind := by
  cases kind <;> rfl

/-- Different kinds define different names. -/
theorem nodup_flatMap_definedBy (hnames : config.names.AreDistinct) {kinds : List TemplateKind}
    (hkinds : kinds.Nodup) : (kinds.flatMap (definedBy config.names)).Nodup := by
  simp only [Names.AreDistinct, List.nodup_cons, List.mem_cons, List.not_mem_nil, or_false,
    not_or] at hnames
  rw [List.nodup_flatMap]
  constructor
  · intro kind _
    cases kind <;> simp [definedBy, hnames]
  · refine hkinds.imp ?_
    intro kind kind' hne
    cases kind <;> cases kind' <;> simp [definedBy, Function.onFun, eq_comm, hnames] at hne ⊢

/-- Generated templates delete exactly those of their members that exist. -/
theorem generate_replaces (hnames : config.names.AreDistinct)
    (hgenerate : generate request config kinds = .ok templates) {members : List Member}
    (hdeclared : (memberNamesOf members).Nodup)
    (hexisting : request.existingMembers = memberNamesOf members) :
    Replaces templates members := by
  rcases exists_fields_of_generate_eq_ok hgenerate with ⟨fields, -, -, rfl⟩
  refine ⟨hdeclared, ?_, ?_⟩
  · have hdefined : definedNames ((distinct kinds).map fun kind =>
        (templateOf kind request.className fields config).replacing request.existingMembers) =
        (distinct kinds).flatMap (definedBy config.names) := by
      rw [definedNames, List.flatMap_map]
      exact List.flatMap_congr fun kind _ => memberNames_templateOf kind _ _
    rw [hdefined]
    exact nodup_flatMap_definedBy hnames (nodup_distinct kinds)
  · rw [List.forall_mem_map]
    intro kind _ name
    rw [← hexisting]
    exact Template.mem_delete_replacing _ _ name

/-- Generating and inserting again changes no name.  The first insertion declares no name twice,
keeps what no template defines in its order, and adds every member that is defined; the second
replaces exactly these. -/
theorem generate_idempotent {members after : List Member}
    (hdeclared : (memberNamesOf members).Nodup)
    (hexisting : request.existingMembers = memberNamesOf members)
    (hnames : config.names.AreDistinct)
    (hgenerate : generate request config kinds = .ok templates)
    (hinserts : InsertsAll templates members after) :
    (memberNamesOf after).Nodup ∧
      (members.filter fun member => member.name ∉ definedNames templates).Sublist after ∧
      (∀ template ∈ templates, ∀ member ∈ template.members, member ∈ after) ∧
      ∃ again,
        generate { request with existingMembers := memberNamesOf after } config kinds =
          .ok again ∧
        again.map Template.kind = templates.map Template.kind ∧
        again.map Template.members = templates.map Template.members ∧
        again.map Template.render = templates.map Template.render ∧
        (∀ template ∈ again, template.delete = template.memberNames) ∧
        ∀ final, InsertsAll again after final →
          ∀ name, name ∈ memberNamesOf final ↔ name ∈ memberNamesOf after := by
  have hreplaces := generate_replaces hnames hgenerate hdeclared hexisting
  have hnodup := hreplaces.nodup_names hinserts
  refine ⟨hnodup, hreplaces.sublist hinserts, hreplaces.mem_of_mem_members hinserts, ?_⟩
  rcases exists_fields_of_generate_eq_ok hgenerate with ⟨fields, hresolve, hclass, htemplates⟩
  let template (kind : TemplateKind) := templateOf kind request.className fields config
  let again := (distinct kinds).map fun kind =>
    (template kind).replacing (memberNamesOf after)
  have hagain : generate { request with existingMembers := memberNamesOf after } config kinds =
      .ok again := by
    rw [generate_of_resolve_ok (by exact hresolve), if_pos (by exact hclass)]
  have hdefined : definedNames again = definedNames templates := by
    rw [htemplates, definedNames, definedNames, List.flatMap_map, List.flatMap_map]
    rfl
  refine ⟨again, hagain, ?_, ?_, ?_, ?_, ?_⟩
  · rw [htemplates, List.map_map, List.map_map]
    rfl
  · rw [htemplates, List.map_map, List.map_map]
    rfl
  · rw [htemplates, List.map_map, List.map_map]
    rfl
  · rw [List.forall_mem_map]
    intro kind hkind
    refine List.filter_eq_self.mpr ?_
    intro name hname
    have hmem : name ∈ definedNames templates := by
      rw [← hdefined]
      exact List.mem_flatMap.mpr ⟨_, List.mem_map_of_mem hkind, hname⟩
    simpa using (hreplaces.mem_names_iff hinserts name).mpr (Or.inr hmem)
  · intro final hfinal name
    rw [(generate_replaces hnames hagain hnodup rfl).mem_names_iff hfinal name, hdefined,
      hreplaces.mem_names_iff hinserts name, or_assoc, or_self]

/-- A class with a handwritten member and two members of its own that are generated anew. -/
theorem generate_idempotent_counter :
    let config : Config := { names := { toMap := "toJson", fromMap := "fromJson" } }
    let members : List Member :=
      [⟨"toJson", [⟨1, "old"⟩]⟩, ⟨"reset", [⟨1, "count = 0;"⟩]⟩, ⟨"toString", [⟨1, "old"⟩]⟩]
    let request : Request :=
      { className := "Counter"
        fields := .shorthand [("count", some "int")]
        existingMembers := ["toJson", "reset", "toString"] }
    ∃ templates,
      generate request config [.toString, .mapTemplate, .toString] = .ok templates ∧
      (memberNamesOf (insertAll templates members)).Nodup ∧
      (members.filter fun member => member.name ∉ definedNames templates).Sublist
        (insertAll templates members) := by
  intro config members request
  let count : Field := ⟨"count", "count", "count", "int", by decide, by decide⟩
  have hresolve : request.resolve = .ok [count] := by decide +kernel
  have hgenerate := @generate_of_resolve_ok request config [.toString, .mapTemplate, .toString]
    [count] hresolve
  rw [if_pos (by decide)] at hgenerate
  have hresult := @generate_idempotent request config [.toString, .mapTemplate, .toString] _
    members _ (by decide) rfl (by decide) hgenerate (insertsAll_insertAll _ members)
  exact ⟨_, hgenerate, hresult.1, hresult.2.1⟩

end Generation

end Memberwise
