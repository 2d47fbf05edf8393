import Memberwise.Proofs.Conversion.Vocabulary
import Memberwise.Proofs.Dart.Nesting
import Memberwise.Proofs.Template.Skeleton

/-!
# Brackets in generated members

Members open and close brackets on different lines, and the fragments of the fields stand
between them.  Whatever the keys and the types are, every bracket of a member is matched.

Main definitions:

- {lit}`LinesLead`: which brackets some lines close, and which they leave open.

Main results:

- Theorem {lit}`leads_render`: printed lines match their brackets as their texts do.
- Theorems {lit}`leads_entryText` and {lit}`leads_argumentText`: the fragments of a field match
  their brackets, whatever the map key is.
- Theorem {lit}`balanced_render_member`: every member matches its brackets.
-/

namespace Memberwise

open Memberwise.Text Memberwise.Dart Memberwise.Layout Memberwise.Template

/-! ## Lines -/

/-- Whether some lines, one after another, lead from pending brackets to others. -/
def LinesLead : List String → List Char → List Char → Prop
  | [], before, after => before = after
  | text :: texts, before, after =>
      ∃ between, Leads text.toList before between ∧ LinesLead texts between after

namespace LinesLead

variable {text : String} {texts left right : List String} {before after : List Char}

/-- A line stands in front of lines that go on with its brackets. -/
theorem cons (between : List Char) (htext : Leads text.toList before between)
    (htexts : LinesLead texts between after) : LinesLead (text :: texts) before after :=
  ⟨between, htext, htexts⟩

/-- One line leads where its text leads. -/
theorem singleton (htext : Leads text.toList before after) : LinesLead [text] before after :=
  ⟨after, htext, rfl⟩

/-- Lines can be put together. -/
theorem append {between : List Char} (hleft : LinesLead left before between)
    (hright : LinesLead right between after) : LinesLead (left ++ right) before after := by
  induction left generalizing before with
  | nil =>
      cases hleft
      exact hright
  | cons text left ih =>
      rcases hleft with ⟨next, htext, hrest⟩
      exact cons next htext (ih hrest)

/-- Lines that close what they open leave any brackets as they are. -/
theorem leave (h : ∀ text ∈ texts, Leads text.toList [] []) (pending : List Char) :
    LinesLead texts pending pending := by
  induction texts with
  | nil => rfl
  | cons text texts ih =>
      rw [List.forall_mem_cons] at h
      exact cons pending (h.1.leave pending) (ih h.2)

end LinesLead

/-- The blanks and line feeds between lines leave the brackets as they are. -/
theorem leads_line {line : Line} {before after : List Char}
    (h : Leads line.text.toList before after) : Leads line.render.toList before after := by
  rcases exists_toList_render line with ⟨indentation, hline⟩
  have hblanks : Leads (List.replicate indentation ' ') [] [] := by
    refine leads_of_avoids ?_
    intro c hc
    rw [List.eq_of_mem_replicate hc]
    decide
  rw [hline]
  exact (hblanks.leave before).append h

/-- Printed lines match their brackets as their texts do. -/
theorem leads_render {lines : List Line} {before after : List Char}
    (h : LinesLead (lines.map Line.text) before after) :
    Leads (Layout.render lines).toList before after := by
  rw [toList_render]
  induction lines generalizing before with
  | nil =>
      cases h
      exact rfl
  | cons line lines ih =>
      rcases h with ⟨between, hline, hlines⟩
      cases lines with
      | nil =>
          cases hlines
          rw [List.map_singleton, List.intercalate_singleton]
          exact leads_line hline
      | cons next lines =>
          have hfeed : Leads ['\n'] [] [] := by decide
          rw [List.map_cons, List.map_cons, List.intercalate_cons_cons]
          exact ((leads_line hline).append_closed hfeed).append (ih hlines)

/-! ## Fragments of fields -/

section Fields

variable {config : Config} {field : Field}

/-- The entry of a field matches its brackets, whatever the map key is. -/
theorem leads_entryText (hconfig : config.names.AreIdentifiers) :
    Leads (Entry.ofField config field).text.toList [] [] := by
  have hkey := (@forall_words_keyExpression_iff config
    (fun word => Leads word.text.toList [] []) (fun _ => leads_of_isIdentifier) hconfig
    field.mapKey).mpr (leads_singleQuoted _)
  have hvalue := @forall_words_serialize config (fun word => Leads word.text.toList [] [])
    (fun _ => leads_of_isIdentifier) hconfig field.type 0 (.reference field.storageName)
    (forall_words_reference (leads_of_isIdentifier field.storageName_isIdentifier))
  rw [Entry.text, String.toList_append, String.toList_append, String.toList_append]
  exact Leads.enclose [] ((leads_text hkey).append (by decide)) (leads_text hvalue) (by decide)

/-- The argument of a field matches its brackets, whatever the map key is. -/
theorem leads_argumentText (hconfig : config.names.AreIdentifiers)
    (hmodels : ∀ name ∈ field.type.modelNames, isIdentifier name = true) :
    Leads (NamedArgument.ofField config field).text.toList [] [] := by
  have hsource := @forall_words_mapAccess config (fun word => Leads word.text.toList [] [])
    (fun _ => leads_of_isIdentifier) hconfig field (leads_singleQuoted _)
  have hvalue := @forall_words_deserialize config (fun word => Leads word.text.toList [] [])
    (fun _ => leads_of_isIdentifier) hconfig _
    (fun name hname => leads_of_isIdentifier (hmodels name hname)) 0 .field _ hsource
  have hname := leads_of_isIdentifier field.publicName_isIdentifier
  rw [NamedArgument.text, String.toList_append, String.toList_append, String.toList_append]
  exact Leads.enclose [] (hname.append (by decide)) (leads_text hvalue) (by decide)

/-- The parameter of a field matches its brackets. -/
theorem leads_parameterText
    (hmodels : ∀ name ∈ field.type.modelNames, isIdentifier name = true) :
    Leads (Parameter.ofField field).text.toList [] [] := by
  have hname := leads_of_isIdentifier field.publicName_isIdentifier
  have htype : Leads (parameterType field.type).toList [] [] := by
    rcases exists_text_eq_parameterType field.type with ⟨spelled, htext, hspelled⟩
    rw [← htext]
    refine leads_typeText ?_
    rw [DartType.words, List.forall_mem_map, hspelled]
    exact fun name hmem => leads_of_isIdentifier (hmodels name hmem)
  rw [Parameter.text, String.toList_append, String.toList_append, String.toList_append]
  exact Leads.enclose [] (htype.append (by decide)) hname (by decide)

/-- The assignment of a field matches its brackets. -/
theorem leads_assignmentText (field : Field) :
    Leads (Assignment.ofField field).text.toList [] [] := by
  have hname := leads_of_isIdentifier field.publicName_isIdentifier
  have hstorage := leads_of_isIdentifier field.storageName_isIdentifier
  have hcondition : Leads ("if (" ++ field.publicName ++ " != null) this.").toList [] [] := by
    rw [String.toList_append, String.toList_append]
    exact Leads.enclose [')'] (by decide) hname (by decide)
  rw [Assignment.text, Assignment.ofField, String.toList_append, String.toList_append,
    String.toList_append, String.toList_append]
  exact Leads.enclose [] (Leads.enclose [] hcondition hstorage (by decide)) hname (by decide)

end Fields

/-! ## Steps of members -/

section Members

variable {config : Config} {className : String} {fields : List Field}

/-- The declaration of the key mapper matches its brackets. -/
theorem leads_keyMapperParameter (hconfig : config.names.AreIdentifiers) :
    Leads (keyMapperParameter config.names).toList [] [] := by
  have hmapper := leads_of_isIdentifier hconfig.keyMapper
  have hvariable := leads_of_isIdentifier hconfig.keyVariable
  unfold keyMapperParameter
  rw [String.toList_append, String.toList_append, String.toList_append, String.toList_append]
  exact Leads.enclose [] (Leads.enclose [')'] (by decide) hvariable (by decide)) hmapper
    (by decide)

/-- The default of the key mapper matches its brackets. -/
theorem leads_keyMapperDefault (hconfig : config.names.AreIdentifiers) :
    Leads (keyMapperDefault config.names).toList [] [] := by
  have hmapper := leads_of_isIdentifier hconfig.keyMapper
  have hvariable := leads_of_isIdentifier hconfig.keyVariable
  have hopening : Leads (config.names.keyMapper ++ " ??= (").toList [] [')'] := by
    rw [String.toList_append]
    exact hmapper.append (by decide)
  unfold keyMapperDefault
  rw [String.toList_append, String.toList_append, String.toList_append, String.toList_append]
  exact Leads.enclose [] (Leads.enclose [')'] hopening hvariable (by decide)) hvariable
    (by decide)

/-- Behind a list of parameters in braces, the key mapper gets its default inside the body. -/
theorem linesLead_keyMapper (hconfig : config.names.AreIdentifiers) :
    LinesLead [keyMapperParameter config.names, "\x7d) \x7b", keyMapperDefault config.names, ""]
      ['}', ')'] ['}'] :=
  .cons ['}', ')'] ((leads_keyMapperParameter hconfig).leave ['}', ')'])
    (.cons ['}'] (by decide)
      (.cons ['}'] ((leads_keyMapperDefault hconfig).leave ['}']) (.singleton (by decide))))

/-- The conversion to a map matches its brackets. -/
theorem linesLead_toMapSteps (hconfig : config.names.AreIdentifiers) :
    LinesLead ((toMapSteps fields config).map Step.text) [] [] := by
  have hname := leads_of_isIdentifier hconfig.toMap
  have hheader : LinesLead ((toMapHeader config).map Step.text) [] ['}'] := by
    unfold toMapHeader
    split
    · have hopening : Leads ("Map<String, dynamic> " ++ config.names.toMap ++ "(\x7b").toList
          [] ['}', ')'] := by
        rw [String.toList_append, String.toList_append]
        exact Leads.enclose [] (by decide) hname (by decide)
      exact .cons ['}', ')'] hopening (linesLead_keyMapper hconfig)
    · have hopening : Leads ("Map<String, dynamic> " ++ config.names.toMap ++ "() \x7b").toList
          [] ['}'] := by
        rw [String.toList_append, String.toList_append]
        exact Leads.enclose [] (by decide) hname (by decide)
      exact .singleton hopening
  have hbody : LinesLead ((toMapBody (fields.map fun field =>
      (Entry.ofField config field).text)).map Step.text) ['}'] ['}'] := by
    have hentries : ∀ text ∈ fields.map fun field => (Entry.ofField config field).text,
        Leads text.toList [] [] := by
      rw [List.forall_mem_map]
      exact fun field _ => leads_entryText hconfig
    rw [map_text_toMapBody]
    split
    · exact .singleton (by decide)
    · exact .cons ['}', '}'] (by decide)
        ((LinesLead.leave hentries ['}', '}']).append (.singleton (by decide)))
  rw [toMapSteps, List.map_append, List.map_append]
  exact (hheader.append hbody).append (.singleton (by decide))

/-- The conversion from a map matches its brackets. -/
theorem linesLead_fromMapSteps (hconfig : config.names.AreIdentifiers)
    (hclass : isIdentifier className = true)
    (hmodels : ∀ field ∈ fields, ∀ name ∈ field.type.modelNames, isIdentifier name = true) :
    LinesLead ((fromMapSteps className fields config).map Step.text) [] [] := by
  have hclassName := leads_of_isIdentifier hclass
  have hname := leads_of_isIdentifier hconfig.fromMap
  have hmap := leads_of_isIdentifier hconfig.mapVariable
  have hfactory : Leads ("factory " ++ className ++ "." ++ config.names.fromMap).toList [] [] := by
    rw [String.toList_append, String.toList_append, String.toList_append]
    exact (Leads.enclose [] (by decide) hclassName (by decide)).append hname
  have hheader : LinesLead ((fromMapHeader className config).map Step.text) [] ['}'] := by
    unfold fromMapHeader
    split
    · have hopening : Leads ("factory " ++ className ++ "." ++ config.names.fromMap ++ "(").toList
          [] [')'] := by
        rw [String.toList_append]
        exact hfactory.append (by decide)
      have hparameter : Leads
          ("Map<String, dynamic> " ++ config.names.mapVariable ++ ", \x7b").toList
          [')'] ['}', ')'] := by
        rw [String.toList_append, String.toList_append]
        exact Leads.enclose [')'] (by decide) hmap (by decide)
      exact .cons [')'] hopening (.cons ['}', ')'] hparameter (linesLead_keyMapper hconfig))
    · have hopening : Leads ("factory " ++ className ++ "." ++ config.names.fromMap ++
          "(Map<String, dynamic> " ++ config.names.mapVariable ++ ") \x7b").toList [] ['}'] := by
        rw [String.toList_append, String.toList_append, String.toList_append]
        exact Leads.enclose [')'] (hfactory.append (by decide)) hmap (by decide)
      exact .singleton hopening
  have hcall : Leads (constructorCall className config.options).toList [] [] := by
    unfold constructorCall
    split
    · have hnew : Leads "new ".toList [] [] := by decide
      rw [String.toList_append]
      exact hnew.append hclassName
    · exact hclassName
  have hbody : LinesLead ((fromMapBody (constructorCall className config.options)
      (fields.map fun field => (NamedArgument.ofField config field).text)).map Step.text)
      ['}'] ['}'] := by
    have harguments : ∀ text ∈ fields.map fun field => (NamedArgument.ofField config field).text,
        Leads text.toList [] [] := by
      rw [List.forall_mem_map]
      exact fun field hfield => leads_argumentText hconfig (hmodels field hfield)
    rw [map_text_fromMapBody]
    split
    · refine .singleton ?_
      rw [String.toList_append, String.toList_append]
      exact Leads.enclose ['}'] (by decide) hcall (by decide)
    · have hopening : Leads ("return " ++ constructorCall className config.options ++ "(").toList
          ['}'] [')', '}'] := by
        rw [String.toList_append, String.toList_append]
        exact Leads.enclose ['}'] (by decide) hcall (by decide)
      exact .cons [')', '}'] hopening
        ((LinesLead.leave harguments [')', '}']).append (.singleton (by decide)))
  rw [fromMapSteps, List.map_append, List.map_append]
  exact (hheader.append hbody).append (.singleton (by decide))

/-- The update matches its brackets. -/
theorem linesLead_applySteps (hconfig : config.names.AreIdentifiers)
    (hclass : isIdentifier className = true)
    (hmodels : ∀ field ∈ fields, ∀ name ∈ field.type.modelNames, isIdentifier name = true) :
    LinesLead ((applySteps className fields config).map Step.text) [] [] := by
  have hhead : Leads (className ++ " " ++ config.names.apply).toList [] [] := by
    have hclassName := leads_of_isIdentifier hclass
    have hname := leads_of_isIdentifier hconfig.apply
    have hblank : Leads " ".toList [] [] := by decide
    rw [String.toList_append, String.toList_append]
    exact (hclassName.append hblank).append hname
  have hbody : LinesLead ((applyBody className config.names.apply fields).map Step.text)
      [] ['}'] := by
    have hparameters : ∀ text ∈ fields.map fun field => (Parameter.ofField field).text,
        Leads text.toList [] [] := by
      rw [List.forall_mem_map]
      exact fun field hfield => leads_parameterText (hmodels field hfield)
    have hassignments : ∀ text ∈ fields.map fun field => (Assignment.ofField field).text,
        Leads text.toList [] [] := by
      rw [List.forall_mem_map]
      exact fun field _ => leads_assignmentText field
    rw [map_text_applyBody]
    split
    · refine .singleton ?_
      rw [String.toList_append]
      exact hhead.append (by decide)
    · have hopening : Leads (className ++ " " ++ config.names.apply ++ "(\x7b").toList
          [] ['}', ')'] := by
        rw [String.toList_append]
        exact hhead.append (by decide)
      exact .cons ['}', ')'] hopening ((LinesLead.leave hparameters ['}', ')']).append
        (.cons ['}'] (by decide) (.leave hassignments ['}'])))
  rw [applySteps, List.map_append]
  exact hbody.append (.cons ['}'] (by decide) (.singleton (by decide)))

/-- The description matches its brackets. -/
theorem linesLead_toStringSteps (hconfig : config.names.AreIdentifiers)
    (hclass : isIdentifier className = true) :
    LinesLead ((toStringSteps className fields config).map Step.text) [] [] := by
  have hname := leads_of_isIdentifier hconfig.toString
  have hopening : Leads ("String " ++ config.names.toString ++ "() \x7b").toList [] ['}'] := by
    rw [String.toList_append, String.toList_append]
    exact Leads.enclose [] (by decide) hname (by decide)
  have hpieces : ∀ piece ∈ descriptionPieces className fields,
      Avoids ['"', '\\'] piece.source.toList := by
    refine forall_mem_descriptionPieces ?_ (by decide) ?_
    · exact avoids_of_isIdentifier hclass (by decide)
    · intro field _
      have hstorage : Avoids ['"', '\\'] field.storageName.toList :=
        avoids_of_isIdentifier field.storageName_isIdentifier (by decide)
      exact ⟨hstorage, hstorage⟩
  have hreturn : Leads
      ("return " ++ doubleQuoted (descriptionPieces className fields) ++ ";").toList [] [] := by
    rw [String.toList_append, String.toList_append]
    exact Leads.enclose [] (by decide) (leads_doubleQuoted hpieces) (by decide)
  exact .cons [] (by decide)
    (.cons ['}'] hopening (.cons ['}'] (hreturn.leave ['}']) (.singleton (by decide))))

/-- Every member matches its brackets, whatever the keys of the fields are. -/
theorem balanced_render_member (hconfig : config.names.AreIdentifiers)
    (hclass : isIdentifier className = true)
    (hmodels : ∀ field ∈ fields, ∀ name ∈ field.type.modelNames, isIdentifier name = true)
    (kind : TemplateKind) :
    ∀ member ∈ (templateOf kind className fields config).members,
      Balanced member.render.toList := by
  have hsteps : ∀ steps ∈ memberSteps kind className fields config,
      LinesLead (steps.map Step.text) [] [] := by
    cases kind with
    | mapTemplate =>
        rw [memberSteps, List.forall_mem_cons, List.forall_mem_singleton]
        exact ⟨linesLead_toMapSteps hconfig, linesLead_fromMapSteps hconfig hclass hmodels⟩
    | applyMethod =>
        rw [memberSteps, List.forall_mem_singleton]
        exact linesLead_applySteps hconfig hclass hmodels
    | toString =>
        rw [memberSteps, List.forall_mem_singleton]
        exact linesLead_toStringSteps hconfig hclass
  intro member hmember
  rcases exists_steps_of_mem_members hmember with ⟨steps, hmem, hlayout⟩
  refine leads_render ?_
  rw [hlayout, map_text_lines]
  exact hsteps steps hmem

/-- A key with quotes, backslashes and brackets that match nothing is harmless. -/
theorem balanced_render_member_rows :
    let config : Config := { options := { addKeyMapper := true, useNewKeyword := true } }
    let rows : Field :=
      ⟨"_rows", "rows", "it's )]\x7d \\", "Map<String, List<Row?>?>", by decide, by decide⟩
    ∀ member ∈ (templateOf .mapTemplate "Table" [rows] config).members,
      Balanced member.render.toList := by
  intro config rows
  have hclass : isIdentifier "Table" = true := by decide
  have hmodels : ∀ field ∈ [rows], ∀ name ∈ field.type.modelNames, isIdentifier name = true := by
    decide +kernel
  exact balanced_render_member Names.areIdentifiers_default hclass hmodels .mapTemplate

end Members

end Memberwise
