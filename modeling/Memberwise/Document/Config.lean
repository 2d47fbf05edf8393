import Memberwise.Config
import Memberwise.Document.Basic

/-!
# Configuration documents

A configuration is read over the defaults: what a document does not give keeps its
default, at every level.

Main definitions:

- {lit}`readConfig`: the reader of a configuration.
-/

namespace Memberwise.Document

open Memberwise.Json

/-! ## Options -/

/-- The options that have been read so far. -/
structure OptionsDraft where
  useNewKeyword : Option Bool := none
  addKeyMapper : Option Bool := none
  noImplicitCasts : Option Bool := none
deriving DecidableEq, Repr

/-- The options with all defaults filled in. -/
def OptionsDraft.finish (draft : OptionsDraft) : Options :=
  let defaults : Options := {}
  { useNewKeyword := draft.useNewKeyword.getD defaults.useNewKeyword
    addKeyMapper := draft.addKeyMapper.getD defaults.addKeyMapper
    noImplicitCasts := draft.noImplicitCasts.getD defaults.noImplicitCasts }

/-- The record of the options. -/
def optionsSchema : Schema OptionsDraft Options where
  name := "GenerationOptions"
  slots :=
    [.of "useNewKeyword" (·.useNewKeyword)
        (fun draft value => { draft with useNewKeyword := some value }) readBoolean,
      .of "addKeyMapper" (·.addKeyMapper)
        (fun draft value => { draft with addKeyMapper := some value }) readBoolean,
      .of "noImplicitCasts" (·.noImplicitCasts)
        (fun draft value => { draft with noImplicitCasts := some value }) readBoolean]
  empty := {}
  ofMembers draft := .ok draft.finish
  ofElements draft := .ok draft.finish

/-! ## Names -/

/-- The names that have been read so far. -/
structure NamesDraft where
  toMap : Option String := none
  fromMap : Option String := none
  apply : Option String := none
  toString : Option String := none
  mapVariable : Option String := none
  keyMapper : Option String := none
  keyVariable : Option String := none
deriving DecidableEq, Repr

/-- The names with all defaults filled in. -/
def NamesDraft.finish (draft : NamesDraft) : Names :=
  let defaults : Names := {}
  { toMap := draft.toMap.getD defaults.toMap
    fromMap := draft.fromMap.getD defaults.fromMap
    apply := draft.apply.getD defaults.apply
    toString := draft.toString.getD defaults.toString
    mapVariable := draft.mapVariable.getD defaults.mapVariable
    keyMapper := draft.keyMapper.getD defaults.keyMapper
    keyVariable := draft.keyVariable.getD defaults.keyVariable }

/-- The record of the names. -/
def namesSchema : Schema NamesDraft Names where
  name := "MemberNames"
  slots :=
    [.of "toMap" (·.toMap) (fun draft name => { draft with toMap := some name }) readText,
      .of "fromMap" (·.fromMap)
        (fun draft name => { draft with fromMap := some name }) readText,
      .of "apply" (·.apply) (fun draft name => { draft with apply := some name }) readText,
      .of "toString" (·.toString)
        (fun draft name => { draft with toString := some name }) readText,
      .of "mapVariable" (·.mapVariable)
        (fun draft name => { draft with mapVariable := some name }) readText,
      .of "keyMapper" (·.keyMapper)
        (fun draft name => { draft with keyMapper := some name }) readText,
      .of "keyVariable" (·.keyVariable)
        (fun draft name => { draft with keyVariable := some name }) readText]
  empty := {}
  ofMembers draft := .ok draft.finish
  ofElements draft := .ok draft.finish

/-! ## Configurations -/

/-- The parts of a configuration that have been read so far. -/
structure ConfigDraft where
  options : Option Options := none
  names : Option Names := none
deriving DecidableEq, Repr

/-- The configuration with all defaults filled in. -/
def ConfigDraft.finish (draft : ConfigDraft) : Config :=
  let defaults : Config := {}
  { options := draft.options.getD defaults.options
    names := draft.names.getD defaults.names }

/-- The record of a configuration. -/
def configSchema : Schema ConfigDraft Config where
  name := "GeneratorConfig"
  slots :=
    [.of "options" (·.options) (fun draft value => { draft with options := some value })
        optionsSchema.read,
      .of "names" (·.names) (fun draft value => { draft with names := some value })
        namesSchema.read]
  empty := {}
  ofMembers draft := .ok draft.finish
  ofElements draft := .ok draft.finish

/-- Reads a configuration. -/
def readConfig : Reader Config :=
  configSchema.read

end Memberwise.Document
