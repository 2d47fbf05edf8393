import Memberwise.Config
import Memberwise.Dart.Expression
import Memberwise.Field

/-!
# Conversions

The expressions that take a value apart into scalars, lists and maps, and the
expressions that put it together again.  Both follow the declared type, and each
level of the type decides by its own nullability how it is accessed.

Main definitions:

- {lit}`serialize`: the expression that takes a value apart.
- {lit}`deserialize`: the expression that puts it together.
- {lit}`Entry.ofField` and {lit}`NamedArgument.ofField`: what a field contributes
  to either conversion of its class.
-/

namespace Memberwise

open Memberwise.Dart

/-! ## Keys -/

/-- The expression of a map key, passed through the key mapper if there is one. -/
def keyExpression (config : Config) (key : String) : Expression :=
  if config.options.addKeyMapper then
    .apply config.names.keyMapper (.literal key)
  else
    .literal key

/-- The expression that reads the value of a field from the map. -/
def mapAccess (config : Config) (field : Field) : Expression :=
  .index (.reference config.names.mapVariable) (keyExpression config field.mapKey)

/-- The key mapper that nested models receive. -/
def forwardedMapper (config : Config) : Option String :=
  if config.options.addKeyMapper then some config.names.keyMapper else none

/-! ## Values -/

/-- The name of a closure parameter at some depth; only names below the outermost
level carry their depth. -/
def parameterName (base : String) (depth : Nat) : String :=
  if depth = 0 then base else base ++ Nat.repr depth

/-- The type of a list that has just been decoded. -/
def decodedList (nullable : Bool) : DartType :=
  .list (.scalar .dynamic false) nullable

/-- The type of a map that has just been decoded. -/
def decodedMap (nullable : Bool) : DartType :=
  .map (.scalar .string false) (.scalar .dynamic false) nullable

/-- The expression that takes the value of an expression apart.  Depths are natural numbers,
of any size: a start from which the levels of the type count past the greatest machine
word is left out of account. -/
def serialize (config : Config) : DartType → Nat → Expression → Expression
  | .scalar _ _, _, source => source
  | .list element nullable, depth, source =>
      let e := parameterName "e" depth
      .mapElements source nullable e
        (serialize config element (depth + 1) (.reference e))
  | .map _ value nullable, depth, source =>
      let k := parameterName "key" depth
      let v := parameterName "value" depth
      .mapValues source nullable k v
        (serialize config value (depth + 1) (.reference v))
  | .model _ nullable, _, source =>
      .toMap source nullable config.names.toMap (forwardedMapper config)

/-- Where a value stands: right under a constructor argument, or inside a
collection. -/
inductive Position where
  | field
  | element
deriving DecidableEq, Repr

/-- Whether a scalar is cast when it is read.  Inside a collection it always is, so
that the collection gets its element type. -/
def Position.casts (config : Config) : Position → Bool
  | field => config.options.noImplicitCasts
  | element => true

/-- The expression that puts a value together from the value of an expression.  Depths are
natural numbers here, too, and starts that count past the greatest machine word are left
out of account. -/
def deserialize (config : Config) :
    DartType → Nat → Position → Expression → Expression
  | .scalar name nullable, _, position, source =>
      if position.casts config ∧ name ≠ .dynamic then
        .cast source (.scalar name nullable)
      else
        source
  | .list element nullable, depth, _, source =>
      let e := parameterName "e" depth
      .mapElements (.parenthesized (.cast source (decodedList nullable))) nullable e
        (deserialize config element (depth + 1) .element (.reference e))
  | .map _ value nullable, depth, _, source =>
      let k := parameterName "key" depth
      let v := parameterName "value" depth
      .mapValues (.parenthesized (.cast source (decodedMap nullable))) nullable k v
        (deserialize config value (depth + 1) .element (.reference v))
  | .model name nullable, _, _, source =>
      let call := Expression.fromMap name config.names.fromMap
        (.cast source (decodedMap false)) (forwardedMapper config)
      if nullable then .unlessNull source call else call

/-! ## Fields -/

/-- An entry of a map literal. -/
structure Entry where
  key : Expression
  value : Expression
deriving DecidableEq, Repr

/-- The line of an entry. -/
def Entry.text (entry : Entry) : String :=
  entry.key.text ++ ": " ++ entry.value.text ++ ","

/-- The entry that stores a field under its map key. -/
def Entry.ofField (config : Config) (field : Field) : Entry where
  key := keyExpression config field.mapKey
  value := serialize config field.type 0 (.reference field.storageName)

/-- A named argument of a constructor call. -/
structure NamedArgument where
  name : String
  value : Expression
deriving DecidableEq, Repr

/-- The line of a named argument. -/
def NamedArgument.text (argument : NamedArgument) : String :=
  argument.name ++ ": " ++ argument.value.text ++ ","

/-- The argument that restores a field from the map. -/
def NamedArgument.ofField (config : Config) (field : Field) : NamedArgument where
  name := field.publicName
  value := deserialize config field.type 0 .field (mapAccess config field)

end Memberwise
