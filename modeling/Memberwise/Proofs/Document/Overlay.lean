import Memberwise.Document.Config
import Memberwise.Proofs.Document.Spelling
import Memberwise.Proofs.Json.Choices

/-!
# Configurations over the defaults

A document gives some of the options and some of the names, and leaves out the others.  In whichever
way it is written, it is read to the configuration that has what is given and the defaults of
everything else.

Main definitions:

- {lit}`OptionKey` and {lit}`NameKey`: the single settings of a configuration.
- {lit}`Choice`: the settings that a document gives.
- {lit}`SpellsChoice`: whether a text is a document that gives a choice.
- {lit}`Choice.Overlays`: whether a configuration has a choice over the defaults.

Main results:

- Theorem {lit}`finds_choice`: a document that gives a choice is found to be what it overlays.
- Theorem {lit}`readConfig_overlays`: every document overlays the defaults, and a document of all
  settings of a configuration is read to it.
-/

namespace Memberwise

/-! ## Settings -/

/-- The keys of the options. -/
inductive OptionKey where
  | useNewKeyword
  | addKeyMapper
  | noImplicitCasts
deriving DecidableEq, Repr

namespace OptionKey

/-- All options. -/
def all : List OptionKey :=
  [useNewKeyword, addKeyMapper, noImplicitCasts]

/-- The name of an option in a document. -/
def name : OptionKey → String
  | useNewKeyword => "useNewKeyword"
  | addKeyMapper => "addKeyMapper"
  | noImplicitCasts => "noImplicitCasts"

end OptionKey

/-- The keys of the names. -/
inductive NameKey where
  | toMap
  | fromMap
  | apply
  | toString
  | mapVariable
  | keyMapper
  | keyVariable
deriving DecidableEq, Repr

namespace NameKey

/-- All names. -/
def all : List NameKey :=
  [toMap, fromMap, apply, toString, mapVariable, keyMapper, keyVariable]

/-- The name of a name in a document. -/
def name : NameKey → String
  | toMap => "toMap"
  | fromMap => "fromMap"
  | apply => "apply"
  | toString => "toString"
  | mapVariable => "mapVariable"
  | keyMapper => "keyMapper"
  | keyVariable => "keyVariable"

end NameKey

/-- Whether an option is on. -/
def Options.get (options : Options) : OptionKey → Bool
  | .useNewKeyword => options.useNewKeyword
  | .addKeyMapper => options.addKeyMapper
  | .noImplicitCasts => options.noImplicitCasts

/-- The name with a key. -/
def Names.get (names : Names) : NameKey → String
  | .toMap => names.toMap
  | .fromMap => names.fromMap
  | .apply => names.apply
  | .toString => names.toString
  | .mapVariable => names.mapVariable
  | .keyMapper => names.keyMapper
  | .keyVariable => names.keyVariable

/-- Options are the same if every one of them is. -/
theorem Options.ext_get {options options' : Options}
    (h : ∀ key, options.get key = options'.get key) : options = options' := by
  obtain ⟨_, _, _⟩ := options
  obtain ⟨_, _, _⟩ := options'
  congr
  · exact h .useNewKeyword
  · exact h .addKeyMapper
  · exact h .noImplicitCasts

/-- Names are the same if every one of them is. -/
theorem Names.ext_get {names names' : Names} (h : ∀ key, names.get key = names'.get key) :
    names = names' := by
  obtain ⟨_, _, _, _, _, _, _⟩ := names
  obtain ⟨_, _, _, _, _, _, _⟩ := names'
  congr
  · exact h .toMap
  · exact h .fromMap
  · exact h .apply
  · exact h .toString
  · exact h .mapVariable
  · exact h .keyMapper
  · exact h .keyVariable

namespace Document

open Memberwise.Json

/-! ## Options and names -/

/-- The options of a document, by key. -/
def optionsByKey : optionsSchema.Uniform OptionKey Bool where
  keys := OptionKey.all
  name := OptionKey.name
  read := readBoolean
  get key draft :=
    match key with
    | .useNewKeyword => draft.useNewKeyword
    | .addKeyMapper => draft.addKeyMapper
    | .noImplicitCasts => draft.noImplicitCasts
  set key draft value :=
    match key with
    | .useNewKeyword => { draft with useNewKeyword := some value }
    | .addKeyMapper => { draft with addKeyMapper := some value }
    | .noImplicitCasts => { draft with noImplicitCasts := some value }
  state choice :=
    { useNewKeyword := choice .useNewKeyword
      addKeyMapper := choice .addKeyMapper
      noImplicitCasts := choice .noImplicitCasts }
  mem_keys key := by cases key <;> decide
  nodup := by decide
  slots_eq := rfl
  empty_eq := rfl
  get_state key choice := by cases key <;> rfl
  set_state key choice value := by cases key <;> rfl

/-- The names of a document, by key. -/
def namesByKey : namesSchema.Uniform NameKey String where
  keys := NameKey.all
  name := NameKey.name
  read := readText
  get key draft :=
    match key with
    | .toMap => draft.toMap
    | .fromMap => draft.fromMap
    | .apply => draft.apply
    | .toString => draft.toString
    | .mapVariable => draft.mapVariable
    | .keyMapper => draft.keyMapper
    | .keyVariable => draft.keyVariable
  set key draft value :=
    match key with
    | .toMap => { draft with toMap := some value }
    | .fromMap => { draft with fromMap := some value }
    | .apply => { draft with apply := some value }
    | .toString => { draft with toString := some value }
    | .mapVariable => { draft with mapVariable := some value }
    | .keyMapper => { draft with keyMapper := some value }
    | .keyVariable => { draft with keyVariable := some value }
  state choice :=
    { toMap := choice .toMap
      fromMap := choice .fromMap
      apply := choice .apply
      toString := choice .toString
      mapVariable := choice .mapVariable
      keyMapper := choice .keyMapper
      keyVariable := choice .keyVariable }
  mem_keys key := by cases key <;> decide
  nodup := by decide
  slots_eq := rfl
  empty_eq := rfl
  get_state key choice := by cases key <;> rfl
  set_state key choice value := by cases key <;> rfl

/-- The options that a document gives, over the defaults. -/
theorem get_optionsFinish (choice : OptionKey → Option Bool) (key : OptionKey) :
    (optionsByKey.state choice).finish.get key =
      (choice key).getD (({} : Options).get key) := by
  cases key <;> rfl

/-- The names that a document gives, over the defaults. -/
theorem get_namesFinish (choice : NameKey → Option String) (key : NameKey) :
    (namesByKey.state choice).finish.get key = (choice key).getD (({} : Names).get key) := by
  cases key <;> rfl

/-! ## Configurations -/

/-- What a document gives of a configuration: a value or none for every option and every name. -/
structure Choice where
  options : OptionKey → Option Bool
  names : NameKey → Option String

namespace Choice

/-- Whether a configuration has what is given, and the default of everything else. -/
structure Overlays (choice : Choice) (config : Config) : Prop where
  options : ∀ key, config.options.get key = (choice.options key).getD (({} : Options).get key)
  names : ∀ key, config.names.get key = (choice.names key).getD (({} : Names).get key)

/-- The configuration that a choice comes to. -/
def config (choice : Choice) : Config where
  options := (optionsByKey.state choice.options).finish
  names := (namesByKey.state choice.names).finish

/-- What a choice comes to has it over the defaults. -/
theorem overlays_config (choice : Choice) : choice.Overlays choice.config :=
  ⟨get_optionsFinish choice.options, get_namesFinish choice.names⟩

/-- No other configuration does. -/
theorem Overlays.eq_config {choice : Choice} {config : Config} (h : choice.Overlays config) :
    config = choice.config := by
  obtain ⟨options, names⟩ := config
  congr
  · exact Options.ext_get fun key => (h.options key).trans (choice.overlays_config.options key).symm
  · exact Names.ext_get fun key => (h.names key).trans (choice.overlays_config.names key).symm

/-- All settings of a configuration. -/
def complete (config : Config) : Choice where
  options key := some (config.options.get key)
  names key := some (config.names.get key)

/-- All settings of a configuration come to it. -/
theorem config_complete (config : Config) : (complete config).config = config :=
  (Overlays.eq_config ⟨fun _ => rfl, fun _ => rfl⟩).symm

end Choice

/-- The parts of a document that gives a choice.  Where nothing is given in a part, it may be left
out. -/
def choiceParts (choice : Choice) : List Part :=
  [⟨"options", SpellsRecord (optionsByKey.parts SpellsBoolean choice.options),
      ∀ key, choice.options key = none⟩,
    ⟨"names", SpellsRecord (namesByKey.parts SpellsString choice.names),
      ∀ key, choice.names key = none⟩]

/-- Whether a text is a document that gives a choice. -/
def SpellsChoice (choice : Choice) : List Char → Prop :=
  SpellsRecord (choiceParts choice)

/-- What has been read of a configuration when members with some names have been read. -/
def ConfigDraft.given (choice : Choice) (seen : List String) : ConfigDraft where
  options := if "options" ∈ seen then some choice.config.options else none
  names := if "names" ∈ seen then some choice.config.names else none

/-- Configurations are read member by member. -/
theorem drafts_config (choice : Choice) : configSchema.Drafts (ConfigDraft.given choice) where
  empty := by simp [ConfigDraft.given, configSchema]
  skip := by
    intro name hname seen
    simp only [configSchema, Slot.of, List.map_cons, List.map_nil, List.mem_cons,
      List.not_mem_nil, or_false, not_or] at hname
    obtain ⟨hoptions, hnames⟩ := hname
    simp [ConfigDraft.given, Ne.symm hoptions, Ne.symm hnames]

/-- Every part of a configuration is taken where it stands. -/
theorem takes_config (choice : Choice) :
    ∀ part ∈ choiceParts choice, configSchema.Takes (ConfigDraft.given choice) part fun seen =>
      .ok (ConfigDraft.given choice (seen ++ [part.name])) := by
  intro part hpart
  simp only [choiceParts, List.mem_cons, List.not_mem_nil, or_false] at hpart
  rcases hpart with rfl | rfl
  · refine Schema.takes_slotOf rfl ?_ ?_ fun _ h =>
      (optionsByKey.finds (fun _ _ => yields_readBoolean) rfl h).yields
    all_goals simp +contextual [ConfigDraft.given, Choice.config, Except.map]
  · refine Schema.takes_slotOf rfl ?_ ?_ fun _ h =>
      (namesByKey.finds (fun _ _ => yields_readText) rfl h).yields
    all_goals simp +contextual [ConfigDraft.given, Choice.config, Except.map]

/-- What is missing of a configuration is the default. -/
theorem ofMembers_config (choice : Choice) (seen : List String)
    (hmissing : ∀ part ∈ choiceParts choice, part.name ∉ seen → part.isOptional) :
    configSchema.ofMembers (ConfigDraft.given choice seen) = .ok choice.config := by
  simp only [choiceParts, List.forall_mem_cons] at hmissing
  obtain ⟨hoptions, hnames, -⟩ := hmissing
  have hoptions' : "options" ∉ seen → choice.config.options = {} := by
    intro hseen
    refine Options.ext_get fun key => ?_
    rw [choice.overlays_config.options key, hoptions hseen key, Option.getD_none]
  have hnames' : "names" ∉ seen → choice.config.names = {} := by
    intro hseen
    refine Names.ext_get fun key => ?_
    rw [choice.overlays_config.names key, hnames hseen key, Option.getD_none]
  simp [configSchema, ConfigDraft.given, ConfigDraft.finish, getD_given hoptions',
    getD_given hnames']

/-- A document that gives a choice is found to be what the choice comes to. -/
theorem finds_choice {choice : Choice} {text : List Char} (h : SpellsChoice choice text) :
    configSchema.Finds text (.ok choice.config) :=
  Schema.finds_ok (drafts_config choice) rfl (takes_config choice) (ofMembers_config choice) h

/-! ## Complete documents -/

/-- The complete JSON of some options. -/
def optionsValue (options : Options) : Value :=
  .object (OptionKey.all.map fun key => (key.name, .boolean (options.get key)))

/-- The complete JSON of some names. -/
def namesValue (names : Names) : Value :=
  .object (NameKey.all.map fun key => (key.name, .string (names.get key)))

/-- The complete JSON of a configuration. -/
def configValue (config : Config) : Value :=
  .object [("options", optionsValue config.options), ("names", namesValue config.names)]

/-- A spelling of the complete JSON of some options gives all of them. -/
theorem spellsRecord_optionsValue {options : Options} {text : List Char}
    (h : Spells (optionsValue options).datum text) :
    SpellsRecord (optionsByKey.parts SpellsBoolean fun key => some (options.get key)) text := by
  have hboolean : ∀ value text, Spells (.boolean value) text → SpellsBoolean value text := by
    intro value text h
    cases h with
    | boolean h => exact h
  exact optionsByKey.spellsRecord_of_spells hboolean h

/-- A spelling of the complete JSON of some names gives all of them. -/
theorem spellsRecord_namesValue {names : Names} {text : List Char}
    (h : Spells (namesValue names).datum text) :
    SpellsRecord (namesByKey.parts SpellsString fun key => some (names.get key)) text := by
  have hstring : ∀ value text, Spells (.string value) text → SpellsString value text := by
    intro value text h
    cases h with
    | string h => exact h
  exact namesByKey.spellsRecord_of_spells hstring h

/-- A spelling of the complete JSON of a configuration gives all its settings. -/
theorem spellsChoice_of_spells {config : Config} {text : List Char}
    (h : Spells (configValue config).datum text) : SpellsChoice (.complete config) text := by
  let options : Part × Datum := (⟨"options",
    SpellsRecord (optionsByKey.parts SpellsBoolean (Choice.complete config).options),
    ∀ key, (Choice.complete config).options key = none⟩, (optionsValue config.options).datum)
  let names : Part × Datum := (⟨"names",
    SpellsRecord (namesByKey.parts SpellsString (Choice.complete config).names),
    ∀ key, (Choice.complete config).names key = none⟩, (namesValue config.names).datum)
  have hspells : ∀ entry ∈ [options, names], ∀ text, Spells entry.2 text → entry.1.spells text := by
    simp only [List.forall_mem_cons, List.not_mem_nil, false_imp_iff, implies_true, and_true]
    exact ⟨fun _ => spellsRecord_optionsValue, fun _ => spellsRecord_namesValue⟩
  exact .of_spells (by simp [options, names]) hspells h

/-- Every document overlays the defaults.  Whatever options and names it gives, in whichever way it
is written, it is read to the configuration that has what is given, and the default of everything
else.  A document of all settings of a configuration is read to that configuration. -/
theorem readConfig_overlays :
    (∀ origin choice text, Padded SpellsChoice choice text.toList →
      ∃ config, readDocument readConfig origin text = .ok config ∧ choice.Overlays config) ∧
    (∀ origin config text, Padded Spells (configValue config).datum text.toList →
      readDocument readConfig origin text = .ok config) ∧
    ∀ origin config, readDocument readConfig origin (configValue config).pretty = .ok config := by
  have hread : ∀ origin config text, Padded Spells (configValue config).datum text.toList →
      readDocument readConfig origin text = .ok config := by
    intro origin config text h
    refine readDocument_of_yields h (fun inside hinside => ?_) origin
    have hfinds := finds_choice (spellsChoice_of_spells hinside)
    rw [Choice.config_complete] at hfinds
    exact hfinds.yields
  refine ⟨?_, hread, ?_⟩
  · intro origin choice text h
    exact ⟨_, readDocument_of_yields h (fun _ h => (finds_choice h).yields) origin,
      choice.overlays_config⟩
  · intro origin config
    refine hread origin config _ ?_
    rw [Value.pretty, String.toList_ofList]
    exact padded_self ((configValue config).spells 0)

/-- A document with a member that nobody asks for, no options, and one of the names, which is
written with an escape. -/
theorem readConfig_overlays_renamed :
    let text :=
      " \x7b\"x\":[0],\"options\":\x7b\x7d,\"names\":\x7b\"toMap\":\"\\u0041\"\x7d\x7d\n"
    readDocument readConfig "a" text = .ok { names := { toMap := "A" } } := by
  intro text
  let choice : Choice := ⟨fun _ => none, fun key => if key = .toMap then some "A" else none⟩
  let array : List Char := Bracket.square.opening :: (['0'] ++ [Bracket.square.closing])
  let string : List Char := '"' :: ([['\\', 'u', '0', '0', '4', '1']].flatten ++ ['"'])
  let options : List Char := Bracket.curly.opening :: ([] ++ [Bracket.curly.closing])
  let names : List Char := Bracket.curly.opening ::
    (printedString "toMap" ++ ':' :: string ++ [Bracket.curly.closing])
  let object : List Char := Bracket.curly.opening ::
    (printedString "x" ++ ':' :: array ++ ',' ::
      (printedString "options" ++ ':' :: options ++ ',' ::
        (printedString "names" ++ ':' :: names)) ++ [Bracket.curly.closing])
  have hzero : IsNumber ['0'] :=
    ⟨['0'], [], [], @IsInteger.mk [] _ (by simp) ⟨by simp, by simp⟩ (by simp), .absent, .absent,
      rfl⟩
  have harray : IsJson array :=
    .array (.filled (.last (padded_self rfl))) (List.forall_mem_singleton.mpr (.number hzero))
  have hstring : SpellsString "A" string :=
    ⟨_, .cons (.unit (@SpellsUnit.digits '0' '0' '4' '1' 0 0 4 1 rfl rfl rfl rfl)) .nil, rfl⟩
  have hmember : ∀ name value, SpellsMember SpellsString Eq (name, value)
      (printedString name ++ ':' :: value) := fun name value =>
    ⟨_, _, padded_self (spellsString_printedString name), padded_self rfl, rfl⟩
  have hoptions : SpellsRecord (optionsByKey.parts SpellsBoolean choice.options) options := by
    refine ⟨[], .empty rfl, ?_, by simp⟩
    simp [Schema.Uniform.parts, Part.ofChoice, Part.IsGiven, choice]
  have hnames : SpellsRecord (namesByKey.parts SpellsString choice.names) names := by
    refine ⟨[("toMap", string)], .filled (.last (hmember _ _)), ?_, ?_⟩
    · simp [Schema.Uniform.parts, namesByKey, NameKey.all, NameKey.name, Part.ofChoice,
        Part.IsGiven, choice, hstring]
    · simp [Schema.Uniform.parts, namesByKey, NameKey.all, NameKey.name]
  have hchoice : SpellsChoice choice object := by
    refine ⟨[("x", array), ("options", options), ("names", names)],
      .filled (.cons (hmember _ _) (.cons (hmember _ _) (.last (hmember _ _)))), ?_, ?_⟩
    · simp [choiceParts, Part.IsGiven, hoptions, hnames]
    · simp [choiceParts, harray]
  have htext : text.toList = [' '] ++ (object ++ ['\n']) := by decide +kernel
  obtain ⟨config, hread, hoverlays⟩ := readConfig_overlays.1 "a" choice text
    ⟨[' '], object, ['\n'], rfl, hchoice, rfl, htext⟩
  rw [hread, hoverlays.eq_config]
  rfl

end Document

end Memberwise
