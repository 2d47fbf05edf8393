import Memberwise.Proofs.Conversion.Vocabulary
import Memberwise.Proofs.Signature.Models
import Memberwise.Proofs.Template.Skeleton

/-!
# Lines of generated code

A line of a template is meant to be one line of the generated code.  Names and signatures
bring no line ends into a line, and neither do the line feeds of a map key, but the carriage
returns of a map key do.

Main results:

- Theorem {lit}`physicalLines_template`: a template whose lines have no line ends is read as
  its lines, with a blank line between members.
- Theorem {lit}`isOneLine_entryText_iff`: the entry of a field stands on one line unless the
  map key has a carriage return.
- Theorem {lit}`physicalLines_render_iff`: the lines of a template are those of the generated
  code exactly if no carriage return is stored in a key.
-/

namespace Memberwise

open Memberwise.Text Memberwise.Dart Memberwise.Layout Memberwise.Template

/-! ## Templates as lines -/

/-- A printed line without line ends in its text has none. -/
theorem isOneLine_render {line : Line} (h : IsOneLine line.text.toList) :
    IsOneLine line.render.toList := by
  rcases exists_toList_render line with ⟨indentation, hline⟩
  have hblank : ' ' ∉ lineEnds := by decide
  rw [hline, isOneLine_append]
  refine ⟨?_, h⟩
  intro c hc
  rw [List.eq_of_mem_replicate hc]
  exact hblank

/-- A template whose lines have no line ends is read as its lines, with a blank line between
members. -/
theorem physicalLines_template {template : Template} (hne : template.members ≠ [])
    (hmembers : ∀ member ∈ template.members, member.lines ≠ [])
    (h : ∀ member ∈ template.members, ∀ line ∈ member.lines, IsOneLine line.text.toList) :
    physicalLines template.render.toList =
      [[]].intercalate (template.members.map fun member =>
        member.lines.map fun line => line.render.toList) := by
  have hrender : template.render.toList =
      ['\n', '\n'].intercalate ((template.members.map fun member =>
        member.lines.map fun line => line.render.toList).map (['\n'].intercalate ·)) := by
    rw [Template.render, String.toList_intercalate, List.map_map, List.map_map]
    refine congrArg _ (List.map_congr_left ?_)
    intro member _
    exact toList_render member.lines
  rw [hrender]
  refine physicalLines_intercalate_groups (by simpa using hne) ?_
  intro group hgroup
  rcases List.mem_map.mp hgroup with ⟨member, hmember, rfl⟩
  refine ⟨by simpa using hmembers member hmember, ?_⟩
  intro chars hchars
  rcases List.mem_map.mp hchars with ⟨line, hline, rfl⟩
  exact isOneLine_render (h member hmember line hline)

/-! ## Lines of fields -/

section Fields

variable {config : Config} {field : Field}

/-- The names of the user models in the type of a field have no line ends if the signature
has none. -/
theorem isOneLine_of_mem_modelNames (hsignature : IsOneLine field.signature.toList) :
    ∀ name ∈ field.type.modelNames, IsOneLine name.toList := by
  intro name hname
  exact hsignature.of_subset (Signature.infix_of_mem_modelNames_read hname).subset

/-- The entry of a field stands on one line unless the map key has a carriage return. -/
theorem isOneLine_entryText_iff (hconfig : config.names.AreIdentifiers) :
    IsOneLine (Entry.ofField config field).text.toList ↔ '\r' ∉ field.mapKey.toList := by
  have hkey := @forall_words_keyExpression_iff config (fun word => IsOneLine word.text.toList)
    (fun _ => isOneLine_of_isIdentifier) hconfig field.mapKey
  have hvalue := @forall_words_serialize config (fun word => IsOneLine word.text.toList)
    (fun _ => isOneLine_of_isIdentifier) hconfig field.type 0 (.reference field.storageName)
    (forall_words_reference (isOneLine_of_isIdentifier field.storageName_isIdentifier))
  rw [← isOneLine_text_iff] at hkey hvalue
  simp [Entry.text, Entry.ofField, hkey, hvalue, isOneLine_singleQuoted_iff, lineEnds]

/-- The argument of a field stands on one line if the map key has no carriage return. -/
theorem isOneLine_argumentText (hconfig : config.names.AreIdentifiers)
    (hsignature : IsOneLine field.signature.toList) (hkey : '\r' ∉ field.mapKey.toList) :
    IsOneLine (NamedArgument.ofField config field).text.toList := by
  have hsource := @forall_words_mapAccess config (fun word => IsOneLine word.text.toList)
    (fun _ => isOneLine_of_isIdentifier) hconfig field (isOneLine_singleQuoted_iff.mpr hkey)
  have hvalue := @forall_words_deserialize config (fun word => IsOneLine word.text.toList)
    (fun _ => isOneLine_of_isIdentifier) hconfig _ (isOneLine_of_mem_modelNames hsignature)
    0 .field _ hsource
  rw [← isOneLine_text_iff] at hvalue
  have hname := isOneLine_of_isIdentifier field.publicName_isIdentifier
  simp [NamedArgument.text, NamedArgument.ofField, hname, hvalue, lineEnds]

/-- The parameter of a field stands on one line. -/
theorem isOneLine_parameterText (hsignature : IsOneLine field.signature.toList) :
    IsOneLine (Parameter.ofField field).text.toList := by
  have hname := isOneLine_of_isIdentifier field.publicName_isIdentifier
  have htype : IsOneLine (parameterType field.type).toList := by
    rcases exists_text_eq_parameterType field.type with ⟨spelled, htext, hmodels⟩
    rw [← htext, isOneLine_typeText_iff, DartType.words, List.forall_mem_map, hmodels]
    exact isOneLine_of_mem_modelNames hsignature
  simp [Parameter.text, Parameter.ofField, hname, htype, lineEnds]

/-- The assignment of a field stands on one line. -/
theorem isOneLine_assignmentText (field : Field) :
    IsOneLine (Assignment.ofField field).text.toList := by
  have hname := isOneLine_of_isIdentifier field.publicName_isIdentifier
  have hstorage := isOneLine_of_isIdentifier field.storageName_isIdentifier
  simp [Assignment.text, Assignment.ofField, hname, hstorage, lineEnds]

end Fields

/-! ## Lines of members -/

section Members

variable {config : Config} {className : String} {fields : List Field}

/-- The declaration of the key mapper stands on one line. -/
theorem isOneLine_keyMapperParameter (hconfig : config.names.AreIdentifiers) :
    IsOneLine (keyMapperParameter config.names).toList := by
  have hmapper := isOneLine_of_isIdentifier hconfig.keyMapper
  have hvariable := isOneLine_of_isIdentifier hconfig.keyVariable
  unfold keyMapperParameter
  simp [hmapper, hvariable, lineEnds]

/-- The default of the key mapper stands on one line. -/
theorem isOneLine_keyMapperDefault (hconfig : config.names.AreIdentifiers) :
    IsOneLine (keyMapperDefault config.names).toList := by
  have hmapper := isOneLine_of_isIdentifier hconfig.keyMapper
  have hvariable := isOneLine_of_isIdentifier hconfig.keyVariable
  unfold keyMapperDefault
  simp [hmapper, hvariable, lineEnds]

/-- The conversion to a map consists of lines if its entries do. -/
theorem isOneLine_toMapSteps (hconfig : config.names.AreIdentifiers)
    (hentries : ∀ field ∈ fields, IsOneLine (Entry.ofField config field).text.toList) :
    ∀ text ∈ (toMapSteps fields config).map Step.text, IsOneLine text.toList := by
  have hname := isOneLine_of_isIdentifier hconfig.toMap
  have hparameter := isOneLine_keyMapperParameter hconfig
  have hdefault := isOneLine_keyMapperDefault hconfig
  have hheader : ∀ text ∈ (toMapHeader config).map Step.text, IsOneLine text.toList := by
    unfold toMapHeader
    split <;> simp [hname, hparameter, hdefault, lineEnds]
  have hbody : ∀ text ∈ (toMapBody (fields.map fun field =>
      (Entry.ofField config field).text)).map Step.text, IsOneLine text.toList := by
    rw [map_text_toMapBody]
    split
    · decide
    · simpa [or_imp, forall_and, lineEnds] using hentries
  rw [toMapSteps, List.map_append, List.map_append, List.forall_mem_append,
    List.forall_mem_append]
  exact ⟨⟨hheader, hbody⟩, by decide⟩

/-- The conversion from a map consists of lines if its arguments do. -/
theorem isOneLine_fromMapSteps (hconfig : config.names.AreIdentifiers)
    (hclass : isIdentifier className = true)
    (harguments : ∀ field ∈ fields, IsOneLine (NamedArgument.ofField config field).text.toList) :
    ∀ text ∈ (fromMapSteps className fields config).map Step.text, IsOneLine text.toList := by
  have hclassLine := isOneLine_of_isIdentifier hclass
  have hname := isOneLine_of_isIdentifier hconfig.fromMap
  have hmap := isOneLine_of_isIdentifier hconfig.mapVariable
  have hparameter := isOneLine_keyMapperParameter hconfig
  have hdefault := isOneLine_keyMapperDefault hconfig
  have hheader : ∀ text ∈ (fromMapHeader className config).map Step.text,
      IsOneLine text.toList := by
    unfold fromMapHeader
    split <;> simp [hclassLine, hname, hmap, hparameter, hdefault, lineEnds]
  have hcall : IsOneLine (constructorCall className config.options).toList := by
    unfold constructorCall
    split <;> simp [hclassLine, lineEnds]
  have hbody : ∀ text ∈ (fromMapBody (constructorCall className config.options)
      (fields.map fun field => (NamedArgument.ofField config field).text)).map Step.text,
      IsOneLine text.toList := by
    rw [map_text_fromMapBody]
    split
    · simp [hcall, lineEnds]
    · simpa [or_imp, forall_and, hcall, lineEnds] using harguments
  rw [fromMapSteps, List.map_append, List.map_append, List.forall_mem_append,
    List.forall_mem_append]
  exact ⟨⟨hheader, hbody⟩, by decide⟩

/-- The update consists of lines. -/
theorem isOneLine_applySteps (hconfig : config.names.AreIdentifiers)
    (hclass : isIdentifier className = true)
    (hsignatures : ∀ field ∈ fields, IsOneLine field.signature.toList) :
    ∀ text ∈ (applySteps className fields config).map Step.text, IsOneLine text.toList := by
  have hclassLine := isOneLine_of_isIdentifier hclass
  have hname := isOneLine_of_isIdentifier hconfig.apply
  have hbody : ∀ text ∈ (applyBody className config.names.apply fields).map Step.text,
      IsOneLine text.toList := by
    rw [map_text_applyBody]
    split
    · simp [hclassLine, hname, lineEnds]
    · have hparameters : ∀ field ∈ fields, IsOneLine (Parameter.ofField field).text.toList :=
        fun field hfield => isOneLine_parameterText (hsignatures field hfield)
      simpa [or_imp, forall_and, hclassLine, hname, isOneLine_assignmentText, lineEnds]
        using hparameters
  rw [applySteps, List.map_append, List.forall_mem_append]
  exact ⟨hbody, by decide⟩

/-- The description consists of lines. -/
theorem isOneLine_toStringSteps (hconfig : config.names.AreIdentifiers)
    (hclass : isIdentifier className = true) :
    ∀ text ∈ (toStringSteps className fields config).map Step.text, IsOneLine text.toList := by
  have hname := isOneLine_of_isIdentifier hconfig.toString
  have hpieces : ∀ piece ∈ descriptionPieces className fields, IsOneLine piece.chars := by
    refine forall_mem_descriptionPieces ?_ (by decide) ?_
    · exact isOneLine_plain_iff.mpr (isOneLine_of_isIdentifier hclass)
    · intro field _
      have hstorage := isOneLine_of_isIdentifier field.storageName_isIdentifier
      exact ⟨isOneLine_plain_iff.mpr hstorage, isOneLine_value_iff.mpr hstorage⟩
  have hliteral := isOneLine_doubleQuoted_iff.mpr hpieces
  simp [toStringSteps, hname, hliteral, lineEnds]

end Members

/-! ## Lines of templates -/

section Templates

variable {kind : TemplateKind} {className : String} {fields : List Field} {config : Config}

/-- A template has no line ends in its lines exactly if no carriage return is stored in a
key. -/
theorem isOneLine_lines_templateOf_iff (hconfig : config.names.AreIdentifiers)
    (hclass : isIdentifier className = true)
    (hsignatures : ∀ field ∈ fields, IsOneLine field.signature.toList) :
    (∀ member ∈ (templateOf kind className fields config).members, ∀ line ∈ member.lines,
      IsOneLine line.text.toList) ↔
    (kind = .mapTemplate → ∀ field ∈ fields, '\r' ∉ field.mapKey.toList) := by
  rw [forall_lines_templateOf_iff (P := fun text => IsOneLine text.toList)]
  cases kind with
  | mapTemplate =>
      rw [memberSteps, List.forall_mem_cons, List.forall_mem_singleton]
      constructor
      · rintro ⟨htoMap, -⟩ _ field hfield
        rw [← isOneLine_entryText_iff hconfig]
        exact htoMap _ (entryText_mem_toMapSteps hfield)
      · intro hkeys
        refine ⟨isOneLine_toMapSteps hconfig ?_, isOneLine_fromMapSteps hconfig hclass ?_⟩
        · intro field hfield
          exact (isOneLine_entryText_iff hconfig).mpr (hkeys rfl field hfield)
        · intro field hfield
          exact isOneLine_argumentText hconfig (hsignatures field hfield) (hkeys rfl field hfield)
  | applyMethod =>
      rw [memberSteps, List.forall_mem_singleton]
      simpa using isOneLine_applySteps hconfig hclass hsignatures
  | toString =>
      rw [memberSteps, List.forall_mem_singleton]
      simpa using isOneLine_toStringSteps hconfig hclass

/-- The lines of a template are those of the generated code, with a blank line between members,
exactly if no carriage return is stored in a key. -/
theorem physicalLines_render_iff (hconfig : config.names.AreIdentifiers)
    (hclass : isIdentifier className = true)
    (hsignatures : ∀ field ∈ fields, IsOneLine field.signature.toList) :
    ((∀ member ∈ (templateOf kind className fields config).members, ∀ line ∈ member.lines,
        IsOneLine line.text.toList) ∧
      physicalLines (templateOf kind className fields config).render.toList =
        [[]].intercalate ((templateOf kind className fields config).members.map fun member =>
          member.lines.map fun line => line.render.toList)) ↔
    (kind = .mapTemplate → ∀ field ∈ fields, '\r' ∉ field.mapKey.toList) := by
  rw [← isOneLine_lines_templateOf_iff hconfig hclass hsignatures]
  refine ⟨And.left, fun hlines => ⟨hlines, ?_⟩⟩
  refine physicalLines_template ?_ ?_ hlines
  · cases kind <;> exact List.cons_ne_nil _ _
  · intro member hmember
    rcases exists_steps_of_mem_members hmember with ⟨steps, hsteps, hlayout⟩
    rw [hlayout, ne_eq, ← List.length_eq_zero_iff, length_lines, List.length_eq_zero_iff]
    exact ne_nil_of_mem_memberSteps hsteps

/-- A key with quotes, dollar signs and line feeds leaves the lines as they are laid out. -/
theorem physicalLines_render_notes :
    let config : Config := { options := { addKeyMapper := true, useNewKeyword := true } }
    let notes : Field :=
      ⟨"_notes", "notes", "it's $1\n\nor \"less\"\n", "Map<String, List<Note?>?>", by decide,
        by decide⟩
    let template := templateOf .mapTemplate "Item" [notes] config
    physicalLines template.render.toList =
      [[]].intercalate (template.members.map fun member =>
        member.lines.map fun line => line.render.toList) := by
  intro config notes template
  have hclass : isIdentifier "Item" = true := by decide
  have hsignatures : ∀ field ∈ [notes], IsOneLine field.signature.toList := by decide
  have hkeys : ∀ field ∈ [notes], '\r' ∉ field.mapKey.toList := by decide
  exact ((@physicalLines_render_iff .mapTemplate "Item" [notes] config
    Names.areIdentifiers_default hclass hsignatures).mpr fun _ => hkeys).2

/-- A key with a carriage return is accepted, and it ends a line inside a literal. -/
theorem exists_line_with_carriageReturn :
    let spec : FieldSpec :=
      { storageName := "name", mapKey? := some "a\rb", signature? := some "String" }
    ∃ field, spec.resolve = .ok field ∧
      ∃ member ∈ (templateOf .mapTemplate "User" [field] {}).members, ∃ line ∈ member.lines,
        ¬ IsOneLine line.text.toList := by
  intro spec
  let field : Field := ⟨"name", "name", "a\rb", "String", by decide, by decide⟩
  have hresolve : spec.resolve = .ok field := by decide +kernel
  have hlines : ¬ ∀ member ∈ (templateOf .mapTemplate "User" [field] {}).members,
      ∀ line ∈ member.lines, IsOneLine line.text.toList := by
    rw [isOneLine_lines_templateOf_iff Names.areIdentifiers_default (by decide) (by decide)]
    simp [field]
  refine ⟨field, hresolve, ?_⟩
  simpa only [not_forall, exists_prop] using hlines

end Templates

end Memberwise
