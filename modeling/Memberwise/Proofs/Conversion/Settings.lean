import Memberwise.Conversion

/-!
# What conversions take from the configuration

A serializer takes the name of its method and the key mapper from the configuration, and a
deserializer, besides these, whether the outermost scalar is cast.  A key mapper leaves a
conversion as it is, except that every literal goes through the mapper and the call of a model
passes the mapper on.

Main definitions:

- {lit}`Expression.mapKeys`: every literal goes through the key mapper.
- {lit}`Expression.forwarding`: the call in which an expression ends passes the key mapper on.
- {lit}`Expression.spineEnd` and {lit}`DartType.spineModel?`: what is inside all collections.

Main results:

- Theorems {lit}`serialize_congr` and {lit}`deserialize_congr`: what a conversion depends on.
- Theorems {lit}`Entry.ofField_addKeyMapper` and {lit}`NamedArgument.ofField_addKeyMapper`:
  what a key mapper adds to the lines of a field.
- Theorem {lit}`deserialize_noImplicitCasts`: which deserializers are never cast.
-/

namespace Memberwise

open Memberwise.Dart

/-! ## Expressions with a key mapper -/

namespace Dart

namespace Expression

/-- The expression in which every literal goes through the key mapper. -/
def mapKeys (mapper : String) : Expression → Expression
  | reference text => reference text
  | literal text => apply mapper (literal text)
  | apply function argument => apply function (argument.mapKeys mapper)
  | index map key => index (map.mapKeys mapper) (key.mapKeys mapper)
  | cast operand type => cast (operand.mapKeys mapper) type
  | parenthesized inner => parenthesized (inner.mapKeys mapper)
  | mapElements target nullAware element body =>
      mapElements (target.mapKeys mapper) nullAware element (body.mapKeys mapper)
  | mapValues target nullAware key value body =>
      mapValues (target.mapKeys mapper) nullAware key value (body.mapKeys mapper)
  | toMap target nullAware method keyMapper =>
      toMap (target.mapKeys mapper) nullAware method keyMapper
  | fromMap model method source keyMapper =>
      fromMap model method (source.mapKeys mapper) keyMapper
  | unlessNull subject body => unlessNull (subject.mapKeys mapper) (body.mapKeys mapper)

/-- What an expression ends in, inside all its closures and behind its guard. -/
def spineEnd : Expression → Expression
  | mapElements _ _ _ body => body.spineEnd
  | mapValues _ _ _ _ body => body.spineEnd
  | unlessNull _ body => body.spineEnd
  | other => other

/-- The expression in which the call of a model at the end, if there is one, passes the key
mapper on. -/
def forwarding (mapper : String) : Expression → Expression
  | mapElements target nullAware element body =>
      mapElements target nullAware element (body.forwarding mapper)
  | mapValues target nullAware key value body =>
      mapValues target nullAware key value (body.forwarding mapper)
  | unlessNull subject body => unlessNull subject (body.forwarding mapper)
  | toMap target nullAware method _ => toMap target nullAware method (some mapper)
  | fromMap model method source _ => fromMap model method source (some mapper)
  | other => other

end Expression

/-- The user model that the elements and values inside all collections of a type are of, if
there is one, and whether they may be null. -/
def DartType.spineModel? : DartType → Option (String × Bool)
  | scalar _ _ => none
  | list element _ => element.spineModel?
  | map _ value _ => value.spineModel?
  | model name nullable => some (name, nullable)

/-- Whether values of a type are cast to a scalar that says more than {lit}`dynamic`. -/
def DartType.isTypedScalar : DartType → Bool
  | scalar name _ => name ≠ .dynamic
  | _ => false

end Dart

/-! ## What conversions depend on -/

section Dependence

variable {config config' : Config}

/-- A key depends on the key mapper only. -/
theorem keyExpression_congr (hmapper : forwardedMapper config = forwardedMapper config')
    (key : String) : keyExpression config key = keyExpression config' key := by
  unfold forwardedMapper at hmapper
  unfold keyExpression
  split <;> split <;> simp_all

/-- A serializer depends on the name of its method and on the key mapper. -/
theorem serialize_congr (htoMap : config.names.toMap = config'.names.toMap)
    (hmapper : forwardedMapper config = forwardedMapper config') (type : DartType)
    (depth : Nat) (source : Expression) :
    serialize config type depth source = serialize config' type depth source := by
  induction type generalizing depth source with
  | scalar name nullable => rfl
  | list element nullable ih => simp only [serialize, ih]
  | map key value nullable _ ih => simp only [serialize, ih]
  | model name nullable => simp only [serialize, htoMap, hmapper]

/-- A deserializer depends on the name of its method, on the key mapper, and on whether it casts
where it stands. -/
theorem deserialize_congr (hfromMap : config.names.fromMap = config'.names.fromMap)
    (hmapper : forwardedMapper config = forwardedMapper config') (type : DartType)
    (depth : Nat) {position : Position}
    (hcasts : position.casts config = position.casts config') (source : Expression) :
    deserialize config type depth position source =
      deserialize config' type depth position source := by
  induction type generalizing depth position source with
  | scalar name nullable => simp only [deserialize, hcasts]
  | list element nullable ih =>
      have hinner := @ih (depth + 1) .element rfl
      simp only [deserialize, hinner]
  | map key value nullable _ ih =>
      have hinner := @ih (depth + 1) .element rfl
      simp only [deserialize, hinner]
  | model name nullable => simp only [deserialize, hfromMap, hmapper]

/-- The entry of a field depends on what its serializer depends on. -/
theorem Entry.ofField_congr (htoMap : config.names.toMap = config'.names.toMap)
    (hmapper : forwardedMapper config = forwardedMapper config') :
    Entry.ofField config = Entry.ofField config' := by
  funext field
  rw [Entry.ofField, Entry.ofField, keyExpression_congr hmapper, serialize_congr htoMap hmapper]

/-- The argument of a field depends on what its deserializer depends on, and on the name of the
map. -/
theorem NamedArgument.ofField_congr (hfromMap : config.names.fromMap = config'.names.fromMap)
    (hmap : config.names.mapVariable = config'.names.mapVariable)
    (hmapper : forwardedMapper config = forwardedMapper config')
    (hcasts : config.options.noImplicitCasts = config'.options.noImplicitCasts) :
    NamedArgument.ofField config = NamedArgument.ofField config' := by
  funext field
  have hposition : Position.field.casts config = Position.field.casts config' := hcasts
  rw [NamedArgument.ofField, NamedArgument.ofField,
    deserialize_congr hfromMap hmapper field.type 0 hposition, mapAccess, mapAccess, hmap,
    keyExpression_congr hmapper]

end Dependence

/-! ## Calls of models -/

/-- The serializer of a type with a model inside all collections ends in the call of its
method. -/
theorem spineEnd_serialize {type : DartType} {model : String} {nullable : Bool}
    (h : type.spineModel? = some (model, nullable)) (config : Config) (depth : Nat)
    (source : Expression) :
    ∃ target, (serialize config type depth source).spineEnd =
      .toMap target nullable config.names.toMap (forwardedMapper config) := by
  induction type generalizing depth source with
  | scalar name nullable => simp [DartType.spineModel?] at h
  | list element nullable ih => exact ih h (depth + 1) _
  | map key value nullable _ ih => exact ih h (depth + 1) _
  | model name nullable =>
      cases h
      exact ⟨source, rfl⟩

/-- The deserializer of a type with a model inside all collections ends in the call of its
method. -/
theorem spineEnd_deserialize {type : DartType} {model : String} {nullable : Bool}
    (h : type.spineModel? = some (model, nullable)) (config : Config) (depth : Nat)
    (position : Position) (source : Expression) :
    ∃ argument, (deserialize config type depth position source).spineEnd =
      .fromMap model config.names.fromMap argument (forwardedMapper config) := by
  induction type generalizing depth position source with
  | scalar name nullable => simp [DartType.spineModel?] at h
  | list element nullable ih => exact ih h (depth + 1) .element _
  | map key value nullable _ ih => exact ih h (depth + 1) .element _
  | model name nullable =>
      cases h
      refine ⟨.cast source (decodedMap false), ?_⟩
      rw [deserialize]
      split <;> rfl

/-- The serializer of a type without a model inside all collections forwards nothing. -/
theorem forwarding_serialize {type : DartType} (h : type.spineModel? = none) (config : Config)
    (mapper : String) (depth : Nat) (name : String) :
    (serialize config type depth (.reference name)).forwarding mapper =
      serialize config type depth (.reference name) := by
  induction type generalizing depth name with
  | scalar scalar nullable => rfl
  | list element nullable ih => simp only [serialize, Expression.forwarding, ih h]
  | map key value nullable _ ih => simp only [serialize, Expression.forwarding, ih h]
  | model model nullable => simp [DartType.spineModel?] at h

/-- The deserializer of a type without a model inside all collections forwards nothing. -/
theorem forwarding_deserialize {type : DartType} (h : type.spineModel? = none) (config : Config)
    {mapper : String} (depth : Nat) (position : Position) {source : Expression}
    (hsource : (source.mapKeys mapper).forwarding mapper = source.mapKeys mapper) :
    ((deserialize config type depth position source).mapKeys mapper).forwarding mapper =
      (deserialize config type depth position source).mapKeys mapper := by
  induction type generalizing depth position source with
  | scalar name nullable =>
      rw [deserialize]
      split
      · rfl
      · exact hsource
  | list element nullable ih =>
      simp only [deserialize, Expression.mapKeys, Expression.forwarding]
      rw [ih h (depth + 1) .element rfl]
  | map key value nullable _ ih =>
      simp only [deserialize, Expression.mapKeys, Expression.forwarding]
      rw [ih h (depth + 1) .element rfl]
  | model name nullable => simp [DartType.spineModel?] at h

section Settings

variable (options : Options) (names : Names)

/-! ## The key mapper -/

/-- The call in which a serializer ends gains the key mapper. -/
theorem serialize_addKeyMapper (type : DartType) (depth : Nat) (name : String) :
    serialize ⟨{ options with addKeyMapper := true }, names⟩ type depth (.reference name) =
      (serialize ⟨{ options with addKeyMapper := false }, names⟩ type depth
        (.reference name)).forwarding names.keyMapper := by
  induction type generalizing depth name with
  | scalar scalar nullable => rfl
  | list element nullable ih => simp only [serialize, ih, Expression.forwarding]
  | map key value nullable _ ih => simp only [serialize, ih, Expression.forwarding]
  | model model nullable => rfl

/-- The literals of a deserializer go through the key mapper, and the call in which it ends
gains the key mapper. -/
theorem deserialize_addKeyMapper (type : DartType) (depth : Nat) (position : Position)
    {source : Expression}
    (hsource : (source.mapKeys names.keyMapper).forwarding names.keyMapper =
      source.mapKeys names.keyMapper) :
    deserialize ⟨{ options with addKeyMapper := true }, names⟩ type depth position
        (source.mapKeys names.keyMapper) =
      ((deserialize ⟨{ options with addKeyMapper := false }, names⟩ type depth position
        source).mapKeys names.keyMapper).forwarding names.keyMapper := by
  induction type generalizing depth position source with
  | scalar name nullable =>
      have hcasts : position.casts ⟨{ options with addKeyMapper := true }, names⟩ =
          position.casts ⟨{ options with addKeyMapper := false }, names⟩ := by
        cases position <;> rfl
      rw [deserialize, deserialize, hcasts]
      split
      · rfl
      · exact hsource.symm
  | list element nullable ih =>
      have hinner := @ih (depth + 1) .element (.reference (parameterName "e" depth)) rfl
      simp only [Expression.mapKeys] at hinner
      simp only [deserialize, Expression.mapKeys, Expression.forwarding, hinner]
  | map key value nullable _ ih =>
      have hinner := @ih (depth + 1) .element (.reference (parameterName "value" depth)) rfl
      simp only [Expression.mapKeys] at hinner
      simp only [deserialize, Expression.mapKeys, Expression.forwarding, hinner]
  | model name nullable => cases nullable <;> rfl

/-- What a key mapper adds to the entry of a field: the key goes through it, and the value
passes it on. -/
theorem Entry.ofField_addKeyMapper (field : Field) :
    let entry := Entry.ofField ⟨{ options with addKeyMapper := false }, names⟩ field
    Entry.ofField ⟨{ options with addKeyMapper := true }, names⟩ field =
      ⟨entry.key.mapKeys names.keyMapper, entry.value.forwarding names.keyMapper⟩ := by
  intro entry
  rw [Entry.ofField, serialize_addKeyMapper]
  rfl

/-- What a key mapper adds to the argument of a field: the keys go through it, and the value
passes it on. -/
theorem NamedArgument.ofField_addKeyMapper (field : Field) :
    let argument := NamedArgument.ofField ⟨{ options with addKeyMapper := false }, names⟩ field
    NamedArgument.ofField ⟨{ options with addKeyMapper := true }, names⟩ field =
      ⟨argument.name, (argument.value.mapKeys names.keyMapper).forwarding names.keyMapper⟩ := by
  intro argument
  have hvalue := @deserialize_addKeyMapper options names field.type 0 .field
    (mapAccess ⟨{ options with addKeyMapper := false }, names⟩ field) rfl
  exact congrArg (NamedArgument.mk field.publicName) hvalue

/-! ## Casts -/

/-- A deserializer is cast on its outside only if it reads a scalar that says more than
{lit}`dynamic`. -/
theorem deserialize_noImplicitCasts {type : DartType} (h : type.isTypedScalar = false)
    (depth : Nat) (source : Expression) :
    deserialize ⟨{ options with noImplicitCasts := true }, names⟩ type depth .field source =
      deserialize ⟨{ options with noImplicitCasts := false }, names⟩ type depth .field source := by
  cases type with
  | scalar name nullable =>
      have hdynamic : name = .dynamic := by simpa [DartType.isTypedScalar] using h
      rw [deserialize, deserialize, if_neg (by simp [hdynamic]), if_neg (by simp [hdynamic])]
  | list element nullable =>
      rw [deserialize, deserialize]
      refine congrArg _ (deserialize_congr ?_ ?_ element (depth + 1) ?_ _) <;> rfl
  | map key value nullable =>
      rw [deserialize, deserialize]
      refine congrArg _ (deserialize_congr ?_ ?_ value (depth + 1) ?_ _) <;> rfl
  | model name nullable => rfl

end Settings

end Memberwise
