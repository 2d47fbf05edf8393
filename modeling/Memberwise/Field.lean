import Memberwise.Dart.Type
import Memberwise.Signature.Reading
import Memberwise.Text.Identifier

/-!
# Fields

A field as its host describes it, and the field that results when the
description is checked and its missing parts are filled in.

Main definitions:

- {lit}`Rejection`: why a field or a class is refused.
- {lit}`FieldSpec.resolve`: the check of a description.
-/

namespace Memberwise

open Memberwise.Text Memberwise.Dart

/-! ## Rejections -/

/-- What an ill-formed name was meant to name. -/
inductive NameRole where
  | ofClass
  | ofField
  | ofAlias
deriving DecidableEq, Repr

/-- The word for the role of a name. -/
def NameRole.word : NameRole → String
  | ofClass => "class"
  | ofField => "field"
  | ofAlias => "alias"

/-- Why nothing can be generated for a class. -/
inductive Rejection where
  /-- The field has no type that could be determined. -/
  | unresolvedType (field : String)
  /-- The field is declared nullable and its signature is not, or the reverse. -/
  | nullabilityMismatch (field signature : String) (declared : Bool)
  | invalidName (role : NameRole) (name : String)
deriving DecidableEq, Repr

/-- The wording of a rejection. -/
def Rejection.message : Rejection → String
  | unresolvedType field =>
      "field `" ++ field
        ++ "` has no resolvable type; it cannot be assigned from a constructor"
  | nullabilityMismatch field signature declared =>
      "field `" ++ field ++ "`: signature `" ++ signature
        ++ "` disagrees with declared nullability ("
        ++ (if declared then "true" else "false") ++ ")"
  | invalidName role name => "invalid " ++ role.word ++ " name `" ++ name ++ "`"

/-! ## Descriptions and fields -/

/-- A field as its host describes it. -/
structure FieldSpec where
  /-- The name of the instance variable, which may be private. -/
  storageName : String
  /-- The name under which the constructor takes the field. -/
  publicName? : Option String := none
  mapKey? : Option String := none
  /-- The declared type; missing when the host could not determine it. -/
  signature? : Option String := none
  /-- The nullability that the host believes the field to have. -/
  nullable? : Option Bool := none
deriving DecidableEq, Repr

/-- A field that has been checked and completed.  Both of its names are
identifiers. -/
structure Field where
  storageName : String
  publicName : String
  mapKey : String
  signature : String
  storageName_isIdentifier : isIdentifier storageName = true
  publicName_isIdentifier : isIdentifier publicName = true
deriving DecidableEq, Repr

namespace Field

/-- The type that the signature of a field declares. -/
def type (field : Field) : DartType :=
  Signature.typeOf field.signature

/-- Whether the field may hold null. -/
def nullable (field : Field) : Bool :=
  field.type.nullable

end Field

namespace FieldSpec

/-- The public name of a field is its storage name unless another is given. -/
def publicName (spec : FieldSpec) : String :=
  spec.publicName?.getD spec.storageName

/-- The map key of a field is its public name unless another is given. -/
def mapKey (spec : FieldSpec) : String :=
  spec.mapKey?.getD spec.publicName

/-- The trimmed signature, unless it is missing or blank. -/
def signature (spec : FieldSpec) : Option String :=
  match spec.signature? with
  | none => none
  | some signature =>
      match trim signature.toList with
      | [] => none
      | trimmed => some (String.ofList trimmed)

/-- Checks a description: the storage name first, then the public name, the presence of
a type, and the declared nullability. -/
def resolve (spec : FieldSpec) : Except Rejection Field :=
  if hstorage : isIdentifier spec.storageName then
    if hpublic : isIdentifier spec.publicName then
      match spec.signature with
      | none => .error (.unresolvedType spec.storageName)
      | some signature =>
          let field : Field :=
            { storageName := spec.storageName
              publicName := spec.publicName
              mapKey := spec.mapKey
              signature := signature
              storageName_isIdentifier := hstorage
              publicName_isIdentifier := hpublic }
          match spec.nullable? with
          | none => .ok field
          | some declared =>
              if declared = field.nullable then .ok field
              else .error (.nullabilityMismatch spec.storageName signature declared)
    else .error (.invalidName .ofAlias spec.publicName)
  else .error (.invalidName .ofField spec.storageName)

end FieldSpec

/-- The field with a storage name, a public name and a signature; the storage name
is the public name when no other is given. -/
def Field.make (storageName : String) (publicName? : Option String) (signature : String) :
    Except Rejection Field :=
  FieldSpec.resolve
    { storageName, publicName? := some (publicName?.getD storageName), signature? := some signature }

end Memberwise
