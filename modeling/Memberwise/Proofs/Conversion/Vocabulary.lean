import Memberwise.Proofs.Conversion.Names
import Memberwise.Proofs.Dart.Vocabulary

/-!
# What conversions are spelled with

Besides the words of their source, conversions are spelled with identifiers and with the names
of user models.  So whatever holds of all identifiers, and of the source and the models, holds
of every word of a conversion.

Main results:

- Theorem {lit}`forall_words_serialize`: the words of a serializer.
- Theorem {lit}`forall_words_deserialize`: the words of a deserializer.
- Theorem {lit}`forall_words_keyExpression_iff`: the words of a key.
-/

namespace Memberwise

open Memberwise.Text Memberwise.Dart

section Words

variable {config : Config} {P : Word → Prop}

/-- The forwarded key mapper is called by an identifier. -/
theorem forall_forwardedWords (hidentifier : ∀ name, isIdentifier name = true → P (.name name))
    (hconfig : config.names.AreIdentifiers) :
    ∀ word ∈ forwardedWords (forwardedMapper config), P word := by
  intro word hword
  have hmapper := hidentifier _ hconfig.keyMapper
  unfold forwardedMapper at hword
  split at hword
  · rcases List.mem_pair.mp hword with rfl | rfl
    · exact hmapper
    · exact hmapper
  · simp [forwardedWords] at hword

/-- A key expression is spelled with the key, and with the key mapper at most. -/
theorem forall_words_keyExpression_iff
    (hidentifier : ∀ name, isIdentifier name = true → P (.name name))
    (hconfig : config.names.AreIdentifiers) {key : String} :
    (∀ word ∈ (keyExpression config key).words, P word) ↔ P (.literal key) := by
  have hmapper := hidentifier _ hconfig.keyMapper
  unfold keyExpression
  split
  · simp [Expression.words, hmapper]
  · simp [Expression.words]

/-- The access to the map is spelled with the key of the field and with identifiers. -/
theorem forall_words_mapAccess (hidentifier : ∀ name, isIdentifier name = true → P (.name name))
    (hconfig : config.names.AreIdentifiers) {field : Field} (hkey : P (.literal field.mapKey)) :
    ∀ word ∈ (mapAccess config field).words, P word := by
  have hwords := (forall_words_keyExpression_iff hidentifier hconfig).mpr hkey
  intro word hword
  rcases List.mem_cons.mp hword with rfl | hword
  · exact hidentifier _ hconfig.mapVariable
  · exact hwords word hword

/-- A variable is spelled with its name. -/
theorem forall_words_reference {name : String} (hname : P (.name name)) :
    ∀ word ∈ (Expression.reference name).words, P word := by
  simpa [Expression.words] using hname

/-- What holds of all identifiers and of the words of the source holds of the words of a
serializer. -/
theorem forall_words_serialize (hidentifier : ∀ name, isIdentifier name = true → P (.name name))
    (hconfig : config.names.AreIdentifiers) (type : DartType) (depth : Nat)
    {source : Expression} (hsource : ∀ word ∈ source.words, P word) :
    ∀ word ∈ (serialize config type depth source).words, P word := by
  induction type generalizing depth source with
  | scalar name nullable => exact hsource
  | list element nullable ih =>
      have helement := hidentifier _
        (isIdentifier_parameterName (show isIdentifier "e" = true by decide) depth)
      exact forall_words_mapElements hsource helement
        (ih (depth + 1) (forall_words_reference helement))
  | map key value nullable _ ih =>
      have hkey := hidentifier _
        (isIdentifier_parameterName (show isIdentifier "key" = true by decide) depth)
      have hvalue := hidentifier _
        (isIdentifier_parameterName (show isIdentifier "value" = true by decide) depth)
      exact forall_words_mapValues hsource hkey hvalue
        (ih (depth + 1) (forall_words_reference hvalue))
  | model name nullable =>
      intro word hword
      rcases List.mem_append.mp hword with hword | hword
      · exact hsource word hword
      · rcases List.mem_cons.mp hword with rfl | hword
        · exact hidentifier _ hconfig.toMap
        · exact forall_forwardedWords hidentifier hconfig word hword

/-- What holds of all identifiers, of the user models and of the words of the source holds of
the words of a deserializer. -/
theorem forall_words_deserialize
    (hidentifier : ∀ name, isIdentifier name = true → P (.name name))
    (hconfig : config.names.AreIdentifiers) {type : DartType}
    (hmodels : ∀ name ∈ type.modelNames, P (.name name)) (depth : Nat) (position : Position)
    {source : Expression} (hsource : ∀ word ∈ source.words, P word) :
    ∀ word ∈ (deserialize config type depth position source).words, P word := by
  induction type generalizing depth position source with
  | scalar name nullable =>
      rw [deserialize]
      split
      · exact forall_words_cast hsource rfl
      · exact hsource
  | list element nullable ih =>
      have helement := hidentifier _
        (isIdentifier_parameterName (show isIdentifier "e" = true by decide) depth)
      exact forall_words_mapElements (forall_words_cast hsource rfl) helement
        (ih hmodels (depth + 1) .element (forall_words_reference helement))
  | map key value nullable _ ih =>
      have hkey := hidentifier _
        (isIdentifier_parameterName (show isIdentifier "key" = true by decide) depth)
      have hvalue := hidentifier _
        (isIdentifier_parameterName (show isIdentifier "value" = true by decide) depth)
      rw [DartType.modelNames, List.forall_mem_append] at hmodels
      exact forall_words_mapValues (forall_words_cast hsource rfl) hkey hvalue
        (ih hmodels.2 (depth + 1) .element (forall_words_reference hvalue))
  | model name nullable =>
      have hcall : ∀ word ∈ (Expression.fromMap name config.names.fromMap
          (.cast source (decodedMap false)) (forwardedMapper config)).words, P word := by
        intro word hword
        rcases List.mem_cons.mp hword with rfl | hword
        · exact hmodels name (by simp [DartType.modelNames])
        · rcases List.mem_cons.mp hword with rfl | hword
          · exact hidentifier _ hconfig.fromMap
          · rcases List.mem_append.mp hword with hword | hword
            · exact forall_words_cast hsource rfl word hword
            · exact forall_forwardedWords hidentifier hconfig word hword
      rw [deserialize]
      split
      · intro word hword
        rcases List.mem_append.mp hword with hword | hword
        · exact hsource word hword
        · exact hcall word hword
      · exact hcall

end Words

end Memberwise
