import Mathlib.Data.List.Nodup
import Memberwise.Proofs.Conversion.Restoration
import Memberwise.Proofs.Conversion.WellFormed

/-!
# The round trip of a class

The lines that both conversions of a class consist of, read and run as the program that
they are: the entries fill a map, and the arguments are computed from that map.  What the
constructor receives for a field is what the field held.

Main definitions:

- {lit}`storedMap`: the map that some lines of entries fill.
- {lit}`restoredArgument`: what the line of a named argument passes to the constructor.

Main results:

- Theorem {lit}`exists_storedMap_restoring`: every field gets its value back.
-/

namespace Memberwise

open Memberwise.Text Memberwise.Dart

/-! ## Lines -/

/-- The entry that a line spells. -/
def readEntry (line : String) : Option Entry := do
  let (key, rest) ← readExpression (line.length + 1) line.toList
  let rest ← skip ": " rest
  let (value, rest) ← readExpression (line.length + 1) rest
  if rest = ",".toList then some { key, value } else none

/-- The named argument that a line spells.  The constructor decides whether its label can be
that of a parameter. -/
def readNamedArgument (line : String) : Option NamedArgument := do
  let (name, rest) ← readIdentifier line.toList
  let rest ← skip ": " rest
  let (value, rest) ← readExpression (line.length + 1) rest
  if rest = ",".toList then some { name, value } else none

/-- An entry is read from its line. -/
theorem readEntry_text {entry : Entry} (hkey : entry.key.WellFormed)
    (hvalue : entry.value.WellFormed) : readEntry entry.text = some entry := by
  have hends : GoesOnWith expressionEnds ",".toList := goesOnWith_word "," [] rfl
  have hlength : entry.text.length =
      entry.key.text.length + ": ".length + entry.value.text.length + ",".length := by
    simp only [Entry.text, String.length_append]
  have hreadKey := @readExpression_text (entry.text.length + 1) _ hkey (by omega) _
    (goesOnWith_word ": " (entry.value.text.toList ++ ",".toList) rfl)
  have hreadValue := @readExpression_text (entry.text.length + 1) _ hvalue (by omega) _ hends
  have htext : entry.text.toList =
      entry.key.text.toList ++ (": ".toList ++ (entry.value.text.toList ++ ",".toList)) := by
    simp only [Entry.text, String.toList_append, List.append_assoc]
  rw [readEntry, htext, hreadKey]
  simp only [skip_append, hreadValue, Option.bind_eq_bind, Option.bind_some, if_true]

/-- A named argument is read from its line. -/
theorem readNamedArgument_text {argument : NamedArgument}
    (hname : isIdentifier argument.name = true) (hvalue : argument.value.WellFormed) :
    readNamedArgument argument.text = some argument := by
  have hends : GoesOnWith expressionEnds ",".toList := goesOnWith_word "," [] rfl
  have hlength : argument.text.length =
      argument.name.length + ": ".length + argument.value.text.length + ",".length := by
    simp only [NamedArgument.text, String.length_append]
  have hreadName := readIdentifier_append hname
    (goesOnWith_word ": " (argument.value.text.toList ++ ",".toList) rfl)
  have hreadValue := @readExpression_text (argument.text.length + 1) _ hvalue (by omega) _ hends
  have htext : argument.text.toList =
      argument.name.toList ++ (": ".toList ++ (argument.value.text.toList ++ ",".toList)) := by
    simp only [NamedArgument.text, String.toList_append, List.append_assoc]
  rw [readNamedArgument, htext, hreadName]
  simp only [skip_append, hreadValue, Option.bind_eq_bind, Option.bind_some, if_true]

/-! ## Running both conversions -/

section Run

variable {Object : Type}

/-- A scope with the key mapper as its innermost parameter, if there is a key mapper. -/
def withKeyMapper (config : Config) (mapper : String → String) (scope : Scope Object) :
    Scope Object :=
  if config.options.addKeyMapper then
    Function.update scope config.names.keyMapper (some (.mapper mapper))
  else
    scope

/-- The scope of the conversion to a map: the instance variables of the object, and the key
mapper. -/
def toMapScope (config : Config) (mapper : String → String)
    (object : String → Option (Value Object)) : Scope Object :=
  withKeyMapper config mapper fun name => (object name).map .value

/-- The scope of the conversion from a map: the map, and the key mapper. -/
def fromMapScope (config : Config) (mapper : String → String)
    (stored : List (String × Value Object)) : Scope Object :=
  withKeyMapper config mapper
    (Scope.bind (fun _ => none) config.names.mapVariable (.map stored))

/-- The entry that a line puts into the map. -/
def storedEntry (models : Models Object) (scope : Scope Object) (line : String) :
    Option (String × Value Object) := do
  let entry ← readEntry line
  match evaluate models scope entry.key, evaluate models scope entry.value with
  | some (.string key), some value => some (key, value)
  | _, _ => none

/-- The map that some lines of entries fill, one after the other. -/
def storedMap (models : Models Object) (scope : Scope Object) (lines : List String) :
    Option (List (String × Value Object)) :=
  (lines.mapM (storedEntry models scope)).map ofPairs

/-- What the line of a named argument passes to the constructor, and under which name. -/
def restoredArgument (models : Models Object) (scope : Scope Object) (line : String) :
    Option (String × Value Object) := do
  let argument ← readNamedArgument line
  (evaluate models scope argument.value).map (argument.name, ·)

end Run

/-! ## Fields that both conversions can handle -/

/-- Whether both conversions can handle a field. -/
structure Convertible (config : Config) (field : Field) : Prop where
  /-- A carriage return cannot stand in a literal as it is. -/
  plainKey : '\r' ∉ field.mapKey.toList
  notReserved : field.storageName ∉ reservedWords
  /-- The parameter of the conversion would hide the field. -/
  notHidden : config.options.addKeyMapper = true → field.storageName ≠ config.names.keyMapper
  classNames : ∀ name ∈ field.type.modelNames, IsClassName name
  keyedByStrings : KeyedByStrings field.type

section RoundTrip

variable {Object : Type} {models : Models Object} {config : Config}
  {mapper : String → String} {field : Field}

/-- The key under which a field is stored. -/
def storedKey (config : Config) (mapper : String → String) (field : Field) : String :=
  (passedMapper config mapper).getD id field.mapKey

/-- Key expressions follow the grammar, and bind as tight as an operand. -/
theorem wellFormed_keyExpression (hnames : config.names = {})
    (hplain : '\r' ∉ field.mapKey.toList) :
    (keyExpression config field.mapKey).WellFormed := by
  rw [keyExpression]
  split
  · refine ⟨?_, hplain⟩
    rw [hnames]
    decide
  · exact hplain

/-- The line of an entry is read back. -/
theorem readEntry_ofField (hnames : config.names = {}) (hfield : Convertible config field) :
    readEntry (Entry.ofField config field).text = some (Entry.ofField config field) := by
  have hstorage : IsName field.storageName :=
    ⟨field.storageName_isIdentifier, hfield.notReserved⟩
  exact readEntry_text (wellFormed_keyExpression hnames hfield.plainKey)
    (wellFormed_serialize hnames field.type 0 rfl hstorage)

/-- The line of a named argument is read back. -/
theorem readNamedArgument_ofField (hnames : config.names = {})
    (hfield : Convertible config field) :
    readNamedArgument (NamedArgument.ofField config field).text =
      some (NamedArgument.ofField config field) := by
  have hmap : IsName config.names.mapVariable := by
    rw [hnames]
    decide
  have hsource : (mapAccess config field).WellFormed :=
    ⟨rfl, hmap, wellFormed_keyExpression hnames hfield.plainKey⟩
  exact readNamedArgument_text field.publicName_isIdentifier
    (wellFormed_deserialize hnames hfield.classNames 0 .field rfl hsource)

/-- The key mapper is handed on where it is a parameter. -/
theorem forwards_withKeyMapper (hnames : config.names = {}) (scope : Scope Object) :
    Forwards config mapper (withKeyMapper config mapper scope) := by
  unfold Forwards forwardedMapper passedMapper withKeyMapper
  split
  · simp [hnames, Scope.forwarded?, Scope.mapper?]
  · rfl

/-- The key mapper hides no other name. -/
theorem withKeyMapper_of_ne {scope : Scope Object} {name : String}
    (h : config.options.addKeyMapper = true → name ≠ config.names.keyMapper) :
    withKeyMapper config mapper scope name = scope name := by
  unfold withKeyMapper
  split
  · rename_i hadd
    rw [Function.update_of_ne (h hadd)]
  · rfl

/-- No parameter of the conversion from a map is called as a class can be. -/
theorem leavesClasses_fromMapScope (hnames : config.names = {})
    (stored : List (String × Value Object)) :
    LeavesClasses (fromMapScope config mapper stored) := by
  intro name hname
  have hmap : name ≠ config.names.mapVariable := by
    rintro rfl
    rw [hnames] at hname
    revert hname
    decide
  have hmapper : name ≠ config.names.keyMapper := by
    rintro rfl
    rw [hnames] at hname
    revert hname
    decide
  rw [fromMapScope, withKeyMapper_of_ne fun _ => hmapper, Scope.bind_of_ne _ _ hmap]

/-- A key expression gives the key under which the field is stored. -/
theorem evaluate_keyExpression (hnames : config.names = {}) {scope : Scope Object}
    (hscope : Forwards config mapper scope) :
    evaluate models scope (keyExpression config field.mapKey) =
      some (.string (storedKey config mapper field)) := by
  unfold Forwards forwardedMapper passedMapper at hscope
  unfold keyExpression storedKey passedMapper
  split
  · rename_i hadd
    have hmapper : scope.mapper? config.names.keyMapper = some mapper := by
      simpa [hadd, hnames, Scope.forwarded?] using hscope
    simp [evaluate, hmapper]
  · rfl

/-- The variable of a field has the value that the object has for the field. -/
theorem evaluate_storage (hfield : Convertible config field)
    {object : String → Option (Value Object)} {value : Value Object}
    (hvalue : object field.storageName = some value) :
    evaluate models (toMapScope config mapper object) (.reference field.storageName) =
      some value := by
  rw [evaluate, Scope.value?, toMapScope, withKeyMapper_of_ne hfield.notHidden, hvalue,
    Option.map_some]

/-- The line of a field's entry stores the value of the field, taken apart, under the key of
the field. -/
theorem storedEntry_ofField (hnames : config.names = {}) (hfield : Convertible config field)
    {object : String → Option (Value Object)} {value : Value Object}
    (hobject : object field.storageName = some value)
    (hvalue : conforms models field.type value = true) :
    storedEntry models (toMapScope config mapper object) (Entry.ofField config field).text =
      some (storedKey config mapper field,
        pack models (passedMapper config mapper) field.type value) := by
  have hscope : Forwards config mapper (toMapScope config mapper object) :=
    forwards_withKeyMapper hnames _
  have hkey := @evaluate_keyExpression _ models config mapper field hnames _ hscope
  have hserialized := @evaluate_serialize _ models config mapper hnames _ 0 _ _ _ hscope hvalue
    (evaluate_storage hfield hobject)
  rw [storedEntry, readEntry_ofField hnames hfield]
  simp only [Entry.ofField, hkey, hserialized, Option.bind_eq_bind, Option.bind_some]

/-- The access to the map gives what is stored under the key of the field. -/
theorem evaluate_mapAccess (hnames : config.names = {})
    {stored : List (String × Value Object)} {value : Value Object}
    (hstored : stored.lookup (storedKey config mapper field) = some value) :
    evaluate models (fromMapScope config mapper stored) (mapAccess config field) =
      some value := by
  have hscope : Forwards config mapper (fromMapScope config mapper stored) :=
    forwards_withKeyMapper hnames _
  have hkey := @evaluate_keyExpression _ models config mapper field hnames _ hscope
  have hne : config.names.mapVariable ≠ config.names.keyMapper := by
    rw [hnames]
    decide
  have hmap : (fromMapScope config mapper stored).value? config.names.mapVariable =
      some (.map stored) := by
    rw [Scope.value?, fromMapScope, withKeyMapper_of_ne fun _ => hne, Scope.bind_self]
  rw [mapAccess, evaluate, evaluate, hmap, hkey]
  dsimp only
  rw [hstored, Option.getD_some]

/-- The line of a field's argument restores the value of the field from what is stored under
the key of the field. -/
theorem restoredArgument_ofField (hrestore : models.Restore) (hnames : config.names = {})
    (hmapper : Function.Injective ((passedMapper config mapper).getD id))
    (hfield : Convertible config field) {stored : List (String × Value Object)}
    {value : Value Object} (hvalue : conforms models field.type value = true)
    (hstored : stored.lookup (storedKey config mapper field) =
      some (pack models (passedMapper config mapper) field.type value)) :
    restoredArgument models (fromMapScope config mapper stored)
        (NamedArgument.ofField config field).text = some (field.publicName, value) := by
  have hscope : Forwards config mapper (fromMapScope config mapper stored) :=
    forwards_withKeyMapper hnames _
  have hrestored := @evaluate_deserialize _ models config mapper hnames hrestore hmapper _
    hfield.classNames hfield.keyedByStrings 0 .field _ _ _ hscope
    (leavesClasses_fromMapScope hnames stored) hvalue (evaluate_mapAccess hnames hstored)
  rw [restoredArgument, readNamedArgument_ofField hnames hfield]
  simp only [NamedArgument.ofField, hrestored, Option.bind_eq_bind, Option.bind_some,
    Option.map_some]

/-- A key mapper that keeps keys apart is passed on as one, and so is a missing one. -/
theorem injective_passedMapper (hmapper : Function.Injective mapper) :
    Function.Injective ((passedMapper config mapper).getD id) := by
  unfold passedMapper
  split
  · exact hmapper
  · exact Function.injective_id

/-- Every field gets its value back: the entries of a class fill a map, and from that map
each argument restores what the object has for its field.  The keys of the fields are
different, and so are those that the key mapper makes of them. -/
theorem exists_storedMap_restoring (hrestore : models.Restore) (hnames : config.names = {})
    (hmapper : Function.Injective mapper) {fields : List Field}
    (hkeys : (fields.map Field.mapKey).Nodup) (hfields : ∀ field ∈ fields, Convertible config field)
    {object : String → Option (Value Object)}
    (hobject : ∀ field ∈ fields, ∃ value,
      object field.storageName = some value ∧ conforms models field.type value = true) :
    ∃ stored,
      storedMap models (toMapScope config mapper object)
          (fields.map fun field => (Entry.ofField config field).text) = some stored ∧
        ∀ field ∈ fields,
          restoredArgument models (fromMapScope config mapper stored)
              (NamedArgument.ofField config field).text =
            (object field.storageName).map (field.publicName, ·) := by
  have hpassed := @injective_passedMapper config mapper hmapper
  let entry : Field → String × Value Object := fun field =>
    (storedKey config mapper field, pack models (passedMapper config mapper) field.type
      ((object field.storageName).getD .null))
  have hentries : ∀ field ∈ fields,
      storedEntry models (toMapScope config mapper object) (Entry.ofField config field).text =
        some (entry field) := by
    intro field hfield
    rcases hobject field hfield with ⟨value, hvalue, hconforms⟩
    have hstored := @storedEntry_ofField _ models config mapper field hnames
      (hfields field hfield) object value hvalue hconforms
    simp only [entry, hvalue, Option.getD_some, hstored]
  have hnodup : ((fields.map entry).map Prod.fst).Nodup := by
    have hmapped := hkeys.map hpassed
    rw [List.map_map] at hmapped ⊢
    exact hmapped
  refine ⟨fields.map entry, ?_, ?_⟩
  · rw [storedMap, mapM_map_eq_some hentries, Option.map_some, ofPairs_eq_self hnodup]
  · intro field hfield
    rcases hobject field hfield with ⟨value, hvalue, hconforms⟩
    have hmem : (storedKey config mapper field,
        pack models (passedMapper config mapper) field.type value) ∈ fields.map entry := by
      refine List.mem_map.mpr ⟨field, hfield, ?_⟩
      simp only [entry, hvalue, Option.getD_some]
    rw [restoredArgument_ofField hrestore hnames hpassed (hfields field hfield) hconforms
      (lookup_of_mem hnodup hmem), hvalue, Option.map_some]

end RoundTrip

/-- A program with one user model.  An instance is told by its name, which it stores under
one key. -/
def personModels : Models String where
  isInstance name _ := name == "Person"
  toMap person mapper := [(mapper.getD id "name", .string person)]
  nodup_toMap _ _ := List.nodup_singleton _
  fromMap name entries mapper :=
    match name == "Person", entries.lookup (mapper.getD id "name") with
    | true, some (.string person) => some person
    | _, _ => none

/-- A field that holds lists of models, and a field that holds null. -/
theorem exists_storedMap_restoring_teams :
    let config : Config := { options := { addKeyMapper := true, noImplicitCasts := true } }
    let teams : Field :=
      ⟨"_teams", "teams", "it's $1", "Map<String, List<Person?>?>", by decide, by decide⟩
    let since : Field := ⟨"since", "since", "since", "num?", by decide, by decide⟩
    let members : Value String := .map [("red", .list [.object "Ada", .null]), ("blue", .null)]
    let object : String → Option (Value String) := fun name =>
      if name = "_teams" then some members else if name = "since" then some .null else none
    ∃ stored,
      storedMap personModels (toMapScope config (· ++ "!") object)
          ([teams, since].map fun field => (Entry.ofField config field).text) = some stored ∧
        restoredArgument personModels (fromMapScope config (· ++ "!") stored)
          (NamedArgument.ofField config teams).text = some ("teams", members) ∧
        restoredArgument personModels (fromMapScope config (· ++ "!") stored)
          (NamedArgument.ofField config since).text = some ("since", .null) := by
  intro config teams since members object
  have hrestore : personModels.Restore := by
    intro name person mapper hinstance _
    have hname : name = "Person" := by simpa [personModels] using hinstance
    simp [personModels, hname]
  have hmapper : Function.Injective (fun key : String => key ++ "!") := by
    intro left right h
    exact (String.append_left_inj _).mp h
  have hteams : teams.type =
      .map (.scalar .string false) (.list (.model "Person" true) true) false := by
    decide +kernel
  have hsince : since.type = .scalar .num true := by decide +kernel
  have hfields : ∀ field ∈ [teams, since], Convertible config field := by
    intro field hfield
    rcases List.mem_pair.mp hfield with rfl | rfl
    · exact
        { plainKey := by decide
          notReserved := by decide
          notHidden := by decide
          classNames := by rw [hteams]; decide
          keyedByStrings := by rw [hteams]; exact ⟨rfl, trivial⟩ }
    · exact
        { plainKey := by decide
          notReserved := by decide
          notHidden := by decide
          classNames := by rw [hsince]; simp [DartType.modelNames]
          keyedByStrings := by rw [hsince]; trivial }
  have hobject : ∀ field ∈ [teams, since], ∃ value,
      object field.storageName = some value ∧
        conforms personModels field.type value = true := by
    intro field hfield
    rcases List.mem_pair.mp hfield with rfl | rfl
    · exact ⟨members, rfl, by rw [hteams]; rfl⟩
    · exact ⟨.null, rfl, by rw [hsince]; rfl⟩
  have hkeys : ([teams, since].map Field.mapKey).Nodup := by decide
  obtain ⟨stored, hstored, hrestored⟩ :=
    exists_storedMap_restoring hrestore rfl hmapper hkeys hfields hobject
  exact ⟨stored, hstored, hrestored teams (by simp), hrestored since (by simp)⟩

end Memberwise
