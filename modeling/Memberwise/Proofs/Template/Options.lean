import Memberwise.Proofs.Conversion.Settings
import Memberwise.Proofs.Template.Frame

/-!
# What the options change

Every option has lines of its own, and leaves all other lines of a class as they are: the
keyword stands in the line that returns the object, a cast in the arguments of scalars, and a
key mapper in the header, the keys and the calls of models.

Main definitions:

- {lit}`InsertsKeyword`, {lit}`InsertsCasts` and {lit}`InsertsKeyMapper`: what each option
  changes.
- {lit}`OptionsApart`: what all options change in the members of a class.

Main results:

- Theorems {lit}`insertsKeyword`, {lit}`insertsCasts` and {lit}`insertsKeyMapper`: the two
  conversions under two settings of an option.
- Theorem {lit}`templateOf_of_addKeyMapper_eq_false`: without a key mapper its names are unused.
- Theorem {lit}`optionsApart`: the options change nothing else.
-/

namespace Memberwise

open Memberwise.Dart Memberwise.Layout Memberwise.Template

/-! ## Lines of fields with a key mapper -/

/-- An entry with a key mapper: its key goes through the mapper, and the call in which its value
ends passes the mapper on. -/
def Entry.withKeyMapper (mapper : String) (entry : Entry) : Entry where
  key := entry.key.mapKeys mapper
  value := entry.value.forwarding mapper

/-- An argument with a key mapper: its keys go through the mapper, and the call in which its
value ends passes the mapper on. -/
def NamedArgument.withKeyMapper (mapper : String) (argument : NamedArgument) :
    NamedArgument where
  name := argument.name
  value := (argument.value.mapKeys mapper).forwarding mapper

/-! ## Changes -/

section Changes

variable (className : String) (fields : List Field) (options : Options) (names : Names)

/-- The keyword is inserted in the line that returns the object, in front of the class. -/
def InsertsKeyword : Prop :=
  ∃ before rest after, (rest = "();" ∨ rest = "(") ∧
    fromMapMember className fields ⟨{ options with useNewKeyword := false }, names⟩ =
      ⟨names.fromMap, before ++ ⟨1, "return " ++ className ++ rest⟩ :: after⟩ ∧
    fromMapMember className fields ⟨{ options with useNewKeyword := true }, names⟩ =
      ⟨names.fromMap, before ++ ⟨1, "return " ++ ("new " ++ className) ++ rest⟩ :: after⟩

/-- A cast is inserted in front of the last comma of an argument, if the type of the field is a
scalar that says more than {lit}`dynamic`. -/
def InsertsCast (field : Field) : Prop :=
  let implicit := NamedArgument.ofField ⟨{ options with noImplicitCasts := false }, names⟩ field
  let explicit := NamedArgument.ofField ⟨{ options with noImplicitCasts := true }, names⟩ field
  if field.type.isTypedScalar then
    ∃ front, implicit.text = front ++ "," ∧
      explicit.text = front ++ " as " ++ field.type.text ++ ","
  else explicit.text = implicit.text

/-- The lines around the arguments of the fields stay as they are, and casts are inserted in the
arguments. -/
def InsertsCasts : Prop :=
  (∃ header frame, ∀ noImplicitCasts,
    fromMapMember className fields ⟨{ options with noImplicitCasts }, names⟩ =
      ⟨names.fromMap, header ++ Frame.around frame (fields.map fun field =>
        (NamedArgument.ofField ⟨{ options with noImplicitCasts }, names⟩ field).text)⟩) ∧
  ∀ field ∈ fields, InsertsCast options names field

/-- The parameters and the default of a key mapper are inserted in the headers, and the key
mapper in the entries and arguments of the fields. -/
def InsertsKeyMapper : Prop :=
  let plain : Config := ⟨{ options with addKeyMapper := false }, names⟩
  let mapped : Config := ⟨{ options with addKeyMapper := true }, names⟩
  (∃ frame : Frame,
    toMapMember fields plain =
      ⟨names.toMap,
        [⟨0, "Map<String, dynamic> " ++ names.toMap ++ "() \x7b"⟩] ++
          frame.around (fields.map fun field => (Entry.ofField plain field).text)⟩ ∧
    toMapMember fields mapped =
      ⟨names.toMap,
        [⟨0, "Map<String, dynamic> " ++ names.toMap ++ "(\x7b"⟩,
          ⟨1, keyMapperParameter names⟩, ⟨0, "\x7d) \x7b"⟩,
          ⟨1, keyMapperDefault names⟩, ⟨0, ""⟩] ++
          frame.around (fields.map fun field =>
            ((Entry.ofField plain field).withKeyMapper names.keyMapper).text)⟩) ∧
  ∃ frame : Frame,
    fromMapMember className fields plain =
      ⟨names.fromMap,
        [⟨0, "factory " ++ className ++ "." ++ names.fromMap ++ "(Map<String, dynamic> " ++
            names.mapVariable ++ ") \x7b"⟩] ++
          frame.around (fields.map fun field => (NamedArgument.ofField plain field).text)⟩ ∧
    fromMapMember className fields mapped =
      ⟨names.fromMap,
        [⟨0, "factory " ++ className ++ "." ++ names.fromMap ++ "("⟩,
          ⟨1, "Map<String, dynamic> " ++ names.mapVariable ++ ", \x7b"⟩,
          ⟨1, keyMapperParameter names⟩, ⟨0, "\x7d) \x7b"⟩,
          ⟨1, keyMapperDefault names⟩, ⟨0, ""⟩] ++
          frame.around (fields.map fun field =>
            ((NamedArgument.ofField plain field).withKeyMapper names.keyMapper).text)⟩

/-- The call of a model in which the lines of a field end gains the key mapper.  Such a call is
there exactly if a model stands inside all collections of the type, and without one only the keys
go through the key mapper. -/
def InsertsForwarding (field : Field) : Prop :=
  let plain : Config := ⟨{ options with addKeyMapper := false }, names⟩
  let entry := Entry.ofField plain field
  let argument := NamedArgument.ofField plain field
  match field.type.spineModel? with
  | some (model, nullable) =>
      (∃ target, entry.value.spineEnd = .toMap target nullable names.toMap none) ∧
        ∃ source, argument.value.spineEnd = .fromMap model names.fromMap source none
  | none =>
      (entry.withKeyMapper names.keyMapper).value = entry.value ∧
        (argument.withKeyMapper names.keyMapper).value = argument.value.mapKeys names.keyMapper

/-! ## Members under two settings -/

/-- The keyword is inserted in the line that returns the object. -/
theorem insertsKeyword : InsertsKeyword className fields options names := by
  let header := lines 0 (fromMapHeader className ⟨options, names⟩)
  cases fields with
  | nil =>
      refine ⟨header, "();", [⟨0, "\x7d"⟩], Or.inl rfl, ?_, ?_⟩
      · rw [fromMapMember, lines_fromMapSteps]
        rfl
      · rw [fromMapMember, lines_fromMapSteps]
        rfl
  | cons field fields =>
      let plain : Config := ⟨{ options with useNewKeyword := false }, names⟩
      let arguments := (field :: fields).map fun field =>
        Line.mk 2 (NamedArgument.ofField plain field).text
      have hsame : NamedArgument.ofField ⟨{ options with useNewKeyword := true }, names⟩ =
          NamedArgument.ofField plain :=
        NamedArgument.ofField_congr rfl rfl rfl rfl
      refine ⟨header, "(", arguments ++ [⟨1, ");"⟩, ⟨0, "\x7d"⟩], Or.inr rfl, ?_, ?_⟩
      · rw [fromMapMember, lines_fromMapSteps, Frame.around, List.map_map]
        rfl
      · rw [fromMapMember, lines_fromMapSteps, hsame, Frame.around, List.map_map]
        rfl

/-- A cast is inserted in the argument of a scalar. -/
theorem insertsCast (field : Field) : InsertsCast options names field := by
  unfold InsertsCast
  intro implicit explicit
  split
  · rename_i htyped
    cases htype : field.type with
    | scalar name nullable =>
        have hname : name ≠ .dynamic := by simpa [htype, DartType.isTypedScalar] using htyped
        let source := mapAccess ⟨options, names⟩ field
        have himplicit : implicit.value = source := by
          change deserialize _ field.type 0 .field source = source
          rw [htype, deserialize, if_neg (by simp [Position.casts])]
        have hexplicit : explicit.value = .cast source (.scalar name nullable) := by
          change deserialize _ field.type 0 .field source = _
          rw [htype, deserialize, if_pos ⟨rfl, hname⟩]
        refine ⟨field.publicName ++ ": " ++ source.text, ?_, ?_⟩
        · rw [NamedArgument.text, himplicit]
          rfl
        · rw [NamedArgument.text, hexplicit, Expression.text]
          simp only [String.append_assoc]
          rfl
    | list element nullable => simp [htype, DartType.isTypedScalar] at htyped
    | map key value nullable => simp [htype, DartType.isTypedScalar] at htyped
    | model name nullable => simp [htype, DartType.isTypedScalar] at htyped
  · rename_i htyped
    have hvalue : explicit.value = implicit.value :=
      deserialize_noImplicitCasts options names (by simpa using htyped) 0 _
    rw [NamedArgument.text, NamedArgument.text, hvalue]
    rfl

/-- Casts are inserted in the arguments of scalars, and nothing else is changed. -/
theorem insertsCasts : InsertsCasts className fields options names := by
  refine ⟨⟨lines 0 (fromMapHeader className ⟨options, names⟩),
    fromMapFrame (constructorCall className options) fields.isEmpty, ?_⟩, ?_⟩
  · intro noImplicitCasts
    rw [fromMapMember, lines_fromMapSteps]
    rfl
  · intro field _
    exact insertsCast options names field

/-- A key mapper is inserted in the headers, the entries and the arguments. -/
theorem insertsKeyMapper : InsertsKeyMapper className fields options names := by
  refine ⟨⟨toMapFrame fields.isEmpty, ?_, ?_⟩,
    ⟨fromMapFrame (constructorCall className options) fields.isEmpty, ?_, ?_⟩⟩
  · rw [toMapMember, lines_toMapSteps]
    rfl
  · rw [toMapMember, lines_toMapSteps]
    simp only [Entry.ofField_addKeyMapper]
    rfl
  · rw [fromMapMember, lines_fromMapSteps]
    rfl
  · rw [fromMapMember, lines_fromMapSteps]
    simp only [NamedArgument.ofField_addKeyMapper]
    rfl

/-- The argument of a list of models, with its key and its calls passed through a mapper. -/
example :
    let rows : Field := ⟨"rows", "rows", "rows", "List<Row>", by decide, by decide⟩
    ((NamedArgument.ofField {} rows).withKeyMapper "keys").text =
      "rows: (map[keys('rows')] as List<dynamic>).map((e) => "
        ++ "Row.fromMap(e as Map<String, dynamic>, keys: keys)).toList()," := by
  decide +kernel

/-- The call of a model gains the key mapper. -/
theorem insertsForwarding (field : Field) : InsertsForwarding options names field := by
  unfold InsertsForwarding
  dsimp only
  split
  · rename_i model nullable hmodel
    exact ⟨spineEnd_serialize hmodel _ 0 _, spineEnd_deserialize hmodel _ 0 .field _⟩
  · rename_i hmodel
    exact ⟨forwarding_serialize hmodel _ names.keyMapper 0 _,
      forwarding_deserialize hmodel _ 0 .field rfl⟩

/-- The conversion to a map depends on no option but the key mapper. -/
theorem toMapMember_congr {options options' : Options}
    (hmapper : options.addKeyMapper = options'.addKeyMapper) :
    toMapMember fields ⟨options, names⟩ = toMapMember fields ⟨options', names⟩ := by
  have hforwarded : forwardedMapper ⟨options, names⟩ = forwardedMapper ⟨options', names⟩ := by
    rw [forwardedMapper, forwardedMapper, hmapper]
  have hheader : toMapHeader ⟨options, names⟩ = toMapHeader ⟨options', names⟩ := by
    rw [toMapHeader, toMapHeader, hmapper]
  have hentries : Entry.ofField ⟨options, names⟩ = Entry.ofField ⟨options', names⟩ :=
    Entry.ofField_congr (by rfl) hforwarded
  rw [toMapMember, toMapMember, toMapSteps, toMapSteps, hentries, hheader]

variable {options} in
/-- Without a key mapper, neither its name nor that of its parameter is used. -/
theorem templateOf_of_addKeyMapper_eq_false (hmapper : options.addKeyMapper = false)
    (keyMapper keyVariable : String) (kind : TemplateKind) :
    templateOf kind className fields ⟨options, { names with keyMapper, keyVariable }⟩ =
      templateOf kind className fields ⟨options, names⟩ := by
  cases kind with
  | mapTemplate =>
      let renamed : Config := ⟨options, { names with keyMapper, keyVariable }⟩
      have hforwarded : forwardedMapper renamed = forwardedMapper ⟨options, names⟩ := by
        simp [forwardedMapper, renamed, hmapper]
      have hentries : Entry.ofField renamed = Entry.ofField ⟨options, names⟩ :=
        Entry.ofField_congr rfl hforwarded
      have harguments : NamedArgument.ofField renamed = NamedArgument.ofField ⟨options, names⟩ :=
        NamedArgument.ofField_congr rfl rfl hforwarded rfl
      have htoMap : toMapHeader renamed = toMapHeader ⟨options, names⟩ := by
        simp [toMapHeader, renamed, hmapper]
      have hfromMap : fromMapHeader className renamed =
          fromMapHeader className ⟨options, names⟩ := by
        simp [fromMapHeader, renamed, hmapper]
      change mapTemplate className fields renamed = mapTemplate className fields _
      rw [mapTemplate, mapTemplate, toMapMember, toMapMember, fromMapMember, fromMapMember,
        toMapSteps, toMapSteps, fromMapSteps, fromMapSteps, hentries, harguments, htoMap, hfromMap]
  | applyMethod => rfl
  | toString => rfl

end Changes

/-! ## All options -/

/-- What the options change in the members of a class. -/
structure OptionsApart (className : String) (fields : List Field) (names : Names) : Prop where
  /-- The update and the description depend on no option. -/
  apply_toString : ∀ options options',
    applyMember className fields ⟨options, names⟩ =
        applyMember className fields ⟨options', names⟩ ∧
      toStringMember className fields ⟨options, names⟩ =
        toStringMember className fields ⟨options', names⟩
  /-- The conversion to a map depends on no option but the key mapper. -/
  toMap : ∀ options options', options.addKeyMapper = options'.addKeyMapper →
    toMapMember fields ⟨options, names⟩ = toMapMember fields ⟨options', names⟩
  useNewKeyword : ∀ options, InsertsKeyword className fields options names
  noImplicitCasts : ∀ options, InsertsCasts className fields options names
  addKeyMapper : ∀ options, InsertsKeyMapper className fields options names
  forwarding : ∀ options, ∀ field ∈ fields, InsertsForwarding options names field
  /-- Without a key mapper, neither its name nor that of its parameter is used. -/
  names_unused : ∀ options, options.addKeyMapper = false → ∀ keyMapper keyVariable kind,
    templateOf kind className fields ⟨options, { names with keyMapper, keyVariable }⟩ =
      templateOf kind className fields ⟨options, names⟩

/-- Each option changes only what it is for, whatever the names and the fields of a class
are. -/
theorem optionsApart (className : String) (fields : List Field) (names : Names) :
    OptionsApart className fields names where
  apply_toString _ _ := ⟨rfl, rfl⟩
  toMap _ _ hmapper := toMapMember_congr fields names hmapper
  useNewKeyword options := insertsKeyword className fields options names
  noImplicitCasts options := insertsCasts className fields options names
  addKeyMapper options := insertsKeyMapper className fields options names
  forwarding options field _ := insertsForwarding options names field
  names_unused _ hmapper keyMapper keyVariable kind :=
    templateOf_of_addKeyMapper_eq_false className fields names hmapper keyMapper keyVariable kind

end Memberwise
