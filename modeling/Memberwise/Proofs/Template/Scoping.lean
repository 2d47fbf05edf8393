import Mathlib.Data.List.TakeWhile
import Memberwise.Proofs.Conversion.Names
import Memberwise.Proofs.Template.Printing
import Memberwise.Proofs.Template.Skeleton

/-!
# Scopes in generated members

The conversion to a map and the description read the fields by their bare storage names.
Closures hide none of them, since a field is read outside of all closures, but the key mapper
is a parameter and hides a field that is called like it.  Every name that is no parameter counts
as a member here, and so does a storage name that is a reserved word of the language.

Main definitions:

- {lit}`Member.parameters`: the parameters that a member declares in braces.
- {lit}`Member.interpolatedNames`: the names that the literals of a member interpolate.

Main results:

- Theorem {lit}`readings_serialize`: a serializer reads its source first, and then parameters
  only.
- Theorem {lit}`interpolatedNames_toStringMember`: a description interpolates the storage names.
- Theorem {lit}`members_read_fields_iff`: every field is read exactly if no parameter is called
  like one.
-/

namespace Memberwise

open Memberwise.Text Memberwise.Dart Memberwise.Layout Memberwise.Template

/-! ## Parameters and interpolations of members -/

/-- The lines of a member without their indentation. -/
def Member.texts (member : Member) : List (List Char) :=
  member.lines.map fun line => line.text.toList

/-- Whether a line opens a list of parameters in braces. -/
def opensParameters (line : List Char) : Bool :=
  match line.reverse with
  | '\x7b' :: '(' :: _ => true
  | _ => false

/-- The name that the line of a parameter declares: the last one in front of the comma. -/
def declaredName (line : List Char) : String :=
  String.ofList ((line.reverse.drop 1).takeWhile isIdentifierRest).reverse

/-- The parameters that some lines declare in braces, one in each line. -/
def declaredParameters (lines : List (List Char)) : List String :=
  let behind := (lines.dropWhile (!opensParameters ·)).drop 1
  (behind.takeWhile (· != ['\x7d', ')', ' ', '\x7b'])).map declaredName

/-- The parameters that a member declares in braces. -/
def Member.parameters (member : Member) : List String :=
  declaredParameters member.texts

/-- The names that the first double-quoted literal of a line interpolates. -/
def lineInterpolations (line : List Char) : List String :=
  interpolations ((line.dropWhile (· != '"')).drop 1)

/-- The names that the literals of a member interpolate, with one literal in a line at most. -/
def Member.interpolatedNames (member : Member) : List String :=
  member.texts.flatMap lineInterpolations

/-- The lines of a member are the texts of the steps that lay it out. -/
theorem texts_mk_lines (name : String) (depth : Nat) (steps : List Step) :
    (Member.mk name (Layout.lines depth steps)).texts =
      (steps.map Step.text).map String.toList := by
  rw [← map_text_lines depth, List.map_map]
  rfl

/-- A line that ends with another character opens no parameters. -/
theorem opensParameters_append {line : List Char} {c : Char} (hc : c ≠ '\x7b') :
    opensParameters (line ++ [c]) = false := by
  unfold opensParameters
  split
  · rename_i hreverse
    rw [List.reverse_append, List.reverse_singleton, List.singleton_append, List.cons.injEq]
      at hreverse
    exact absurd hreverse.1 hc
  · rfl

/-- Without a line that opens parameters there are none. -/
theorem declaredParameters_eq_nil {lines : List (List Char)}
    (h : ∀ line ∈ lines, opensParameters line = false) : declaredParameters lines = [] := by
  have hbehind : lines.dropWhile (!opensParameters ·) = [] := by
    rw [List.dropWhile_eq_nil_iff]
    intro line hline
    simp [h line hline]
  simp [declaredParameters, hbehind]

/-- The parameters begin behind the line that opens them. -/
theorem declaredParameters_cons {opening : List Char} (h : opensParameters opening = true)
    (lines : List (List Char)) :
    declaredParameters (opening :: lines) =
      (lines.takeWhile (· != ['\x7d', ')', ' ', '\x7b'])).map declaredName := by
  rw [declaredParameters, List.dropWhile_cons_of_neg (by simp [h]), List.drop_one, List.tail_cons]

/-! ## Serializers -/

section Serializers

variable {config : Config} {parameters : List String}

/-- A closure of a conversion does not hide the key mapper. -/
theorem keyMapper_not_mem_cons (hnames : config.names = {}) (bases : List String)
    (hbases : ∀ base ∈ bases, base ≠ ({} : Names).keyMapper) {closures : List (List String)}
    (hclosures : ∀ closure ∈ closures, config.names.keyMapper ∉ closure) (depth : Nat) :
    ∀ closure ∈ bases.map (parameterName · depth) :: closures,
      config.names.keyMapper ∉ closure := by
  rw [List.forall_mem_cons]
  refine ⟨?_, hclosures⟩
  intro hmem
  rcases List.mem_map.mp hmem with ⟨base, hbase, heq⟩
  rw [hnames] at heq
  exact parameterName_ne (hbases base hbase) (by decide) depth heq

/-- A forwarded key mapper is that of the method. -/
theorem referent_forwardedMapper
    (hparameters : config.options.addKeyMapper = true → config.names.keyMapper ∈ parameters)
    {closures : List (List String)}
    (hclosures : ∀ closure ∈ closures, config.names.keyMapper ∉ closure) :
    ∀ reading ∈ (forwardedMapper config).toList.map (Reading.mk · closures),
      reading.referent parameters = .parameter := by
  intro reading hreading
  unfold forwardedMapper at hreading
  split at hreading
  · rename_i hadd
    rw [List.mem_singleton.mp hreading]
    exact Reading.referent_parameter (hparameters hadd) hclosures
  · simp at hreading

/-- A serializer reads its source first.  All else that it reads are parameters of the closure
around the place, and the key mapper. -/
theorem readings_serialize (hnames : config.names = {})
    (hparameters : config.options.addKeyMapper = true → config.names.keyMapper ∈ parameters)
    (type : DartType) (depth : Nat) (source : Expression) {closures : List (List String)}
    (hclosures : ∀ closure ∈ closures, config.names.keyMapper ∉ closure) :
    ∃ others,
      (serialize config type depth source).readings closures =
        source.readings closures ++ others ∧
      ∀ reading ∈ others, reading.referent parameters ∈ [.closure 0, .parameter] := by
  induction type generalizing depth source closures with
  | scalar name nullable => exact ⟨[], by simp [serialize], by simp⟩
  | list element nullable ih =>
      let e := parameterName "e" depth
      have hinner : ∀ closure ∈ [e] :: closures, config.names.keyMapper ∉ closure :=
        keyMapper_not_mem_cons hnames ["e"] (by decide) hclosures depth
      rcases ih (depth + 1) (.reference e) hinner with ⟨others, hreadings, hothers⟩
      refine ⟨⟨e, [e] :: closures⟩ :: others, ?_, ?_⟩
      · rw [serialize, Expression.readings, hreadings]
        rfl
      · rw [List.forall_mem_cons]
        refine ⟨?_, hothers⟩
        rw [Reading.referent_innermost (by simp)]
        decide
  | map key value nullable _ ih =>
      let k := parameterName "key" depth
      let v := parameterName "value" depth
      have hinner : ∀ closure ∈ [k, v] :: closures, config.names.keyMapper ∉ closure :=
        keyMapper_not_mem_cons hnames ["key", "value"] (by decide) hclosures depth
      rcases ih (depth + 1) (.reference v) hinner with ⟨others, hreadings, hothers⟩
      refine ⟨⟨k, [k, v] :: closures⟩ :: ⟨v, [k, v] :: closures⟩ :: others, ?_, ?_⟩
      · rw [serialize, Expression.readings, hreadings]
        rfl
      · rw [List.forall_mem_cons, List.forall_mem_cons]
        refine ⟨?_, ?_, hothers⟩
        · rw [Reading.referent_innermost (by simp)]
          decide
        · rw [Reading.referent_innermost (by simp)]
          decide
  | model name nullable =>
      refine ⟨(forwardedMapper config).toList.map (Reading.mk · closures), rfl, ?_⟩
      intro reading hreading
      rw [referent_forwardedMapper hparameters hclosures reading hreading]
      decide

end Serializers

/-! ## Conversion to a map -/

section Members

variable {config : Config} {className : String} {fields : List Field}

/-- An entry opens no parameters. -/
theorem opensParameters_entryText (field : Field) :
    opensParameters (Entry.ofField config field).text.toList = false := by
  rw [Entry.text, String.toList_append]
  exact opensParameters_append (by decide)

/-- The conversion to a map declares the key mapper, if there is one, and nothing else. -/
theorem parameters_toMapMember (hnames : config.names = {}) :
    (toMapMember fields config).parameters =
      if config.options.addKeyMapper then [config.names.keyMapper] else [] := by
  rw [Member.parameters, toMapMember, texts_mk_lines, toMapSteps, toMapHeader, hnames]
  split
  · rw [List.append_assoc, List.map_append, List.map_append, List.map_cons, List.map_cons,
      List.map_cons, List.cons_append, declaredParameters_cons (by decide)]
    rfl
  · have hbody : ∀ text ∈ (toMapBody (fields.map fun field =>
        (Entry.ofField config field).text)).map Step.text, opensParameters text.toList = false := by
      rw [map_text_toMapBody]
      split
      · decide
      · rw [List.forall_mem_cons, List.forall_mem_append, List.forall_mem_map]
        exact ⟨by decide, fun field _ => opensParameters_entryText field, by decide⟩
    refine declaredParameters_eq_nil ?_
    rw [List.forall_mem_map, List.map_append, List.map_append, List.forall_mem_append,
      List.forall_mem_append]
    exact ⟨⟨by decide, hbody⟩, by decide⟩

/-! ## Description -/

/-- The description declares no parameters. -/
theorem parameters_toStringMember (hnames : config.names = {}) :
    (toStringMember className fields config).parameters = [] := by
  rw [Member.parameters, toStringMember, texts_mk_lines, toStringSteps, hnames]
  refine declaredParameters_eq_nil ?_
  have hreturn : opensParameters
      ("return " ++ doubleQuoted (descriptionPieces className fields) ++ ";").toList = false := by
    rw [String.toList_append]
    exact opensParameters_append (by decide)
  rw [List.forall_mem_map]
  simp only [List.map_cons, List.map_nil, List.forall_mem_cons]
  exact ⟨by decide, by decide, hreturn, by decide, by simp⟩

/-- The pieces of a description interpolate the fields in their order. -/
theorem interpolations_descriptionPieces (hclass : isIdentifier className = true)
    (rest : List Char) :
    interpolations ((descriptionPieces className fields).flatMap Piece.chars ++ '"' :: rest) =
      fields.map Field.storageName := by
  have hread := readQuotedBody_descriptionPieces hclass fields rest
  rw [interpolations_of_readQuotedBody hread, filterMap_name?_letters,
    filterMap_name?_descriptionPieces]

/-- A line without a literal interpolates nothing. -/
theorem lineInterpolations_eq_nil {line : List Char} (h : Avoids ['"'] line) :
    lineInterpolations line = [] := by
  have hskipped : ∀ c ∈ line, (c != '"') = true := fun c hc => by simpa using h c hc
  rw [lineInterpolations, List.dropWhile_eq_nil_iff.mpr hskipped, List.drop_nil, interpolations]

/-- What stands in front of a literal is skipped. -/
theorem lineInterpolations_append {before : List Char} (h : Avoids ['"'] before)
    (literal : List Char) :
    lineInterpolations (before ++ '"' :: literal) = interpolations literal := by
  have hskipped : ∀ c ∈ before, (c != '"') = true := fun c hc => by simpa using h c hc
  rw [lineInterpolations, List.dropWhile_append_of_pos hskipped,
    List.dropWhile_cons_of_neg (by decide), List.drop_one, List.tail_cons]

/-- A description interpolates the storage names of the fields in their order. -/
theorem interpolatedNames_toStringMember (hnames : config.names = {})
    (hclass : isIdentifier className = true) :
    (toStringMember className fields config).interpolatedNames =
      fields.map Field.storageName := by
  have hreturn : ("return " ++ doubleQuoted (descriptionPieces className fields) ++ ";").toList =
      "return ".toList ++
        '"' :: ((descriptionPieces className fields).flatMap Piece.chars ++ '"' :: [';']) := by
    simp [doubleQuoted]
  have hliteral : lineInterpolations
      ("return " ++ doubleQuoted (descriptionPieces className fields) ++ ";").toList =
      fields.map Field.storageName := by
    rw [hreturn, lineInterpolations_append (by decide), interpolations_descriptionPieces hclass]
  rw [Member.interpolatedNames, toStringMember, texts_mk_lines, toStringSteps, hnames]
  simp only [List.map_cons, List.map_nil, List.flatMap_cons, List.flatMap_nil, List.append_nil,
    Step.text_line]
  rw [lineInterpolations_eq_nil (by decide), lineInterpolations_eq_nil (by decide), hliteral,
    lineInterpolations_eq_nil (by decide), List.nil_append, List.nil_append, List.append_nil]

end Members

/-! ## What the members read -/

section Members

variable {config : Config} {className : String} {fields : List Field}

/-- Whether the generated members read the fields that they name: every entry of the conversion
to a map reads its field, and the description interpolates the fields. -/
structure ReadsFields (className : String) (fields : List Field) (config : Config) : Prop where
  entry_mem : ∀ field ∈ fields,
    (Entry.ofField config field).text.toList ∈ (toMapMember fields config).texts
  entry_reads : ∀ field ∈ fields,
    ReadsOneMember (toMapMember fields config).parameters (Entry.ofField config field).value
      field.storageName
  interpolated :
    (toStringMember className fields config).interpolatedNames = fields.map Field.storageName
  interpolated_reads : ∀ name ∈ (toStringMember className fields config).interpolatedNames,
    (Reading.mk name []).referent (toStringMember className fields config).parameters = .member

/-- An entry reads its field exactly if no parameter is called like the field. -/
theorem readsOneMember_entry_iff (hnames : config.names = {}) {field : Field} :
    ReadsOneMember (toMapMember fields config).parameters (Entry.ofField config field).value
        field.storageName ↔
      (config.options.addKeyMapper = true → field.storageName ≠ config.names.keyMapper) := by
  have hparameters := @parameters_toMapMember config fields hnames
  have hmapper : config.options.addKeyMapper = true →
      config.names.keyMapper ∈ (toMapMember fields config).parameters := by
    intro hadd
    simp [hparameters, hadd]
  have hreferent :
      (Reading.mk field.storageName []).referent (toMapMember fields config).parameters = .member ↔
        (config.options.addKeyMapper = true → field.storageName ≠ config.names.keyMapper) := by
    rw [Reading.referent_outermost, hparameters]
    cases config.options.addKeyMapper <;> simp
  have houtermost : ∀ closure ∈ ([] : List (List String)), config.names.keyMapper ∉ closure := by
    simp
  rcases readings_serialize hnames hmapper field.type 0 (.reference field.storageName)
    houtermost with ⟨others, hreadings, hothers⟩
  rw [← hreferent]
  constructor
  · rintro ⟨_, _, hmember, _⟩
    exact hmember
  · intro hmember
    exact ⟨others, hreadings, hmember, hothers⟩

/-- The generated members read the fields that they name, exactly if no field is called like
the key mapper where there is one. -/
theorem members_read_fields_iff (hnames : config.names = {})
    (hclass : isIdentifier className = true) :
    ReadsFields className fields config ↔
      (config.options.addKeyMapper = true →
        ∀ field ∈ fields, field.storageName ≠ config.names.keyMapper) := by
  constructor
  · intro hreads hadd field hfield
    exact (readsOneMember_entry_iff hnames).mp (hreads.entry_reads field hfield) hadd
  · intro hapart
    refine
      { entry_mem := ?_
        entry_reads := ?_
        interpolated := interpolatedNames_toStringMember hnames hclass
        interpolated_reads := ?_ }
    · intro field hfield
      rw [toMapMember, texts_mk_lines]
      exact List.mem_map_of_mem (entryText_mem_toMapSteps hfield)
    · intro field hfield
      exact (readsOneMember_entry_iff hnames).mpr fun hadd => hapart hadd field hfield
    · intro name _
      rw [parameters_toStringMember hnames, Reading.referent_outermost]
      exact if_neg List.not_mem_nil

/-- Fields that are called like the parameters of closures, or with dollar signs, are read. -/
theorem readsFields_closureNames :
    let config : Config := { options := { addKeyMapper := true } }
    let rows : Field := ⟨"e", "rows", "it's", "List<List<Row?>>?", by decide, by decide⟩
    let names : Field := ⟨"value", "key", "value", "Map<String, List<int>>", by decide, by decide⟩
    let price : Field := ⟨"$price_", "price", "price", "double?", by decide, by decide⟩
    ReadsFields "Table" [rows, names, price] config := by
  intro config rows names price
  have hclass : isIdentifier "Table" = true := by decide
  refine (members_read_fields_iff rfl hclass).mpr ?_
  intro _
  decide

/-- A field that is called like the key mapper is accepted, and its entry reads the parameter
instead of the field. -/
theorem exists_hidden_field :
    let config : Config := { options := { addKeyMapper := true } }
    let spec : FieldSpec := { storageName := "keyMapper", signature? := some "int" }
    ∃ field, spec.resolve = .ok field ∧
      (Entry.ofField config field).value.readings [] = [⟨field.storageName, []⟩] ∧
      (Reading.mk field.storageName []).referent (toMapMember [field] config).parameters =
        .parameter ∧
      ¬ ReadsFields "User" [field] config := by
  intro config spec
  let field : Field := ⟨"keyMapper", "keyMapper", "keyMapper", "int", by decide, by decide⟩
  have hresolve : spec.resolve = .ok field := by decide +kernel
  have hreadings : (Entry.ofField config field).value.readings [] =
      [⟨field.storageName, []⟩] := by
    decide +kernel
  have hparameter : (Reading.mk field.storageName []).referent
      (toMapMember [field] config).parameters = .parameter := by
    rw [parameters_toMapMember rfl]
    decide
  refine ⟨field, hresolve, hreadings, hparameter, ?_⟩
  intro hreads
  have hentry := hreads.entry_reads field (by simp)
  exact (readsOneMember_entry_iff rfl).mp hentry rfl rfl

end Members

end Memberwise
