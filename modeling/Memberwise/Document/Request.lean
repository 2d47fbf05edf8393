import Memberwise.Document.Basic
import Memberwise.Request

/-!
# Request documents

A request is a record; its fields are an array of descriptions or an object that maps
names to signatures.  A document holds one request or an array of requests.

Main definitions:

- {lit}`readFieldSpec`: the reader of a description.
- {lit}`readRequest`: the reader of a request.
- {lit}`readRequests`: the reader of a document of requests.
- {lit}`fieldOfDocument`: a field that is described by a document of its own.
-/

namespace Memberwise.Document

open Memberwise.Json

/-! ## Descriptions of fields -/

/-- The parts of a description that have been read so far. -/
structure FieldDraft where
  storageName : Option String := none
  publicName : Option (Option String) := none
  mapKey : Option (Option String) := none
  signature : Option (Option String) := none
  nullable : Option (Option Bool) := none
deriving DecidableEq, Repr

/-- The description with a storage name and the parts that have been read. -/
def FieldDraft.finish (draft : FieldDraft) (storageName : String) : FieldSpec where
  storageName := storageName
  publicName? := draft.publicName.join
  mapKey? := draft.mapKey.join
  signature? := draft.signature.join
  nullable? := draft.nullable.join

/-- The record of a description. -/
def fieldSchema : Schema FieldDraft FieldSpec where
  name := "FieldSpec"
  slots :=
    [.of "variableName" (·.storageName)
        (fun draft value => { draft with storageName := some value }) readText,
      .of "publicAliasName" (·.publicName)
        (fun draft value => { draft with publicName := some value })
        (readOptional readText),
      .of "mapKey" (·.mapKey) (fun draft value => { draft with mapKey := some value })
        (readOptional readText),
      .of "typeSignature" (·.signature)
        (fun draft value => { draft with signature := some value })
        (readOptional readText),
      .of "isNullable" (·.nullable)
        (fun draft value => { draft with nullable := some value })
        (readOptional readBoolean)]
  empty := {}
  ofMembers draft :=
    match draft.storageName with
    | some storageName => .ok (draft.finish storageName)
    | none => .error (.missingMember "variableName")
  ofElements draft :=
    match draft.storageName with
    | some storageName => .ok (draft.finish storageName)
    | none => .error (.tooFewElements 0 "struct FieldSpec with 5 elements")

/-- Reads the description of a field. -/
def readFieldSpec : Reader FieldSpec :=
  fieldSchema.read

/-- The field that a document describes. -/
def fieldOfDocument (origin source : String) : Except DocumentError Field := do
  let spec ← readDocument readFieldSpec origin source
  match spec.resolve with
  | .ok field => .ok field
  | .error rejection => .error ⟨origin, .rejected rejection⟩

/-! ## Fields of a request -/

/-- Reads the signature of a field that is only given by its name. -/
def shorthandMember (name : String) (fields : Shorthand) :
    Except Cause (Reader Shorthand) :=
  .ok fun text => do
    let (signature, rest) ← readOptional readText text
    .ok (fields.put name signature, rest)

/-- Reads the fields of a request in either form. -/
def readFieldList : Reader FieldList := fun text =>
  match skipBlanks text with
  | '[' :: rest => do
      let (specs, rest) ← readListBody readFieldSpec rest
      .ok (.detailed specs, rest)
  | '{' :: rest => do
      let (signatures, rest) ← readObjectBody shorthandMember [] rest
      .ok (.shorthand signatures, rest)
  | other =>
      mismatch "an array of fields or an object mapping field names to signatures" other

/-! ## Requests -/

/-- The parts of a request that have been read so far. -/
structure RequestDraft where
  className : Option String := none
  fields : Option FieldList := none
  existingMembers : Option (List String) := none
deriving DecidableEq, Repr

/-- The request for a class with the parts that have been read. -/
def RequestDraft.finish (draft : RequestDraft) (className : String) : Request where
  className := className
  fields := draft.fields.getD (.detailed [])
  existingMembers := draft.existingMembers.getD []

/-- The record of a request. -/
def requestSchema : Schema RequestDraft Request where
  name := "GenerationRequest"
  slots :=
    [.of "className" (·.className)
        (fun draft value => { draft with className := some value }) readText,
      .of "fields" (·.fields) (fun draft value => { draft with fields := some value })
        readFieldList,
      .of "existingMembers" (·.existingMembers)
        (fun draft value => { draft with existingMembers := some value })
        (readList readText)]
  empty := {}
  ofMembers draft :=
    match draft.className with
    | some className => .ok (draft.finish className)
    | none => .error (.missingMember "className")
  ofElements draft :=
    match draft.className with
    | some className => .ok (draft.finish className)
    | none => .error (.tooFewElements 0 "struct GenerationRequest with 3 elements")

/-- Reads a request. -/
def readRequest : Reader Request :=
  requestSchema.read

/-- Reads a request that is written as an object, or an array of requests. -/
def readRequests : Reader (List Request) := fun text =>
  match skipBlanks text with
  | '{' :: rest => do
      let (request, rest) ← requestSchema.readObject rest
      .ok ([request], rest)
  | '[' :: rest => readListBody readRequest rest
  | other => mismatch "a generation request or an array of them" other

end Memberwise.Document
