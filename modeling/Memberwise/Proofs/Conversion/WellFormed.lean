import Memberwise.Proofs.Conversion.Names
import Memberwise.Proofs.Dart.Grammar

/-!
# Conversions follow the grammar

The expressions of both conversions can be read from their spelling: every source of a
level is a variable, the map under a key, or stands in brackets where it is cast.

Main results:

- Theorem {lit}`wellFormed_serialize`: serializers follow the grammar.
- Theorem {lit}`wellFormed_deserialize`: deserializers follow the grammar.
-/

namespace Memberwise

open Memberwise.Text Memberwise.Dart

/-! ## Names -/

/-- The name of a class is not reserved, since no capital begins a reserved word. -/
theorem IsClassName.isName {name : String} (h : IsClassName name) : IsName name := by
  have hlower : reservedWords.all (fun word => !word.toList.head?.any Char.isUpper) = true := by
    decide
  refine ⟨h.1, ?_⟩
  intro hmem
  have hword := List.all_eq_true.mp hlower name hmem
  rw [h.2] at hword
  contradiction

/-- A closure parameter is not reserved if its base is not, since no reserved word has a
digit. -/
theorem isName_parameterName {base : String} (hbase : IsName base) (depth : Nat) :
    IsName (parameterName base depth) := by
  have hdigits : reservedWords.all (fun word => !word.toList.any Char.isDigit) = true := by
    decide
  refine ⟨isIdentifier_parameterName hbase.1 depth, ?_⟩
  intro hmem
  have hword := List.all_eq_true.mp hdigits _ hmem
  rw [Bool.not_eq_true'] at hword
  refine parameterName_ne ?_ hword depth rfl
  intro hsame
  rw [← hsame] at hmem
  exact hbase.2 hmem

/-! ## Both conversions -/

section Conversions

variable {config : Config}

/-- The forwarded key mapper is called by a name. -/
theorem isName_forwardedMapper (hnames : config.names = {}) :
    ∀ name ∈ forwardedMapper config, IsName name := by
  intro name hname
  unfold forwardedMapper at hname
  split at hname
  · cases hname
    rw [hnames]
    decide
  · contradiction

/-- Serializers follow the grammar. -/
theorem wellFormed_serialize (hnames : config.names = {}) (type : DartType) (depth : Nat)
    {source : Expression} (hprimary : source.isPrimary = true) (hsource : source.WellFormed) :
    (serialize config type depth source).WellFormed := by
  induction type generalizing depth source with
  | scalar name nullable => exact hsource
  | list element nullable ih =>
      have hparameter := isName_parameterName (show IsName "e" by decide) depth
      exact ⟨hprimary, hsource, hparameter, ih (depth + 1) rfl hparameter⟩
  | map key value nullable _ ih =>
      have hkey := isName_parameterName (show IsName "key" by decide) depth
      have hvalue := isName_parameterName (show IsName "value" by decide) depth
      exact ⟨hprimary, hsource, hkey, hvalue, ih (depth + 1) rfl hvalue⟩
  | model name nullable =>
      rw [serialize]
      refine ⟨hprimary, hsource, ?_, ?_, isName_forwardedMapper hnames⟩
      · rw [hnames]
        decide
      · rw [hnames]
        decide

/-- Deserializers follow the grammar. -/
theorem wellFormed_deserialize (hnames : config.names = {}) {type : DartType}
    (hclasses : ∀ name ∈ type.modelNames, IsClassName name) (depth : Nat)
    (position : Position) {source : Expression} (hoperand : source.isOperand = true)
    (hsource : source.WellFormed) :
    (deserialize config type depth position source).WellFormed := by
  induction type generalizing depth position source with
  | scalar name nullable =>
      rw [deserialize]
      split
      · exact ⟨hoperand, hsource, rfl⟩
      · exact hsource
  | list element nullable ih =>
      have hparameter := isName_parameterName (show IsName "e" by decide) depth
      exact ⟨rfl, ⟨hoperand, hsource, rfl⟩, hparameter,
        ih hclasses (depth + 1) .element rfl hparameter⟩
  | map key value nullable _ ih =>
      have hkey := isName_parameterName (show IsName "key" by decide) depth
      have hvalue := isName_parameterName (show IsName "value" by decide) depth
      rw [DartType.modelNames, List.forall_mem_append] at hclasses
      exact ⟨rfl, ⟨hoperand, hsource, rfl⟩, hkey, hvalue,
        ih hclasses.2 (depth + 1) .element rfl hvalue⟩
  | model name nullable =>
      have hname := hclasses name (by simp [DartType.modelNames])
      have hcall : (Expression.fromMap name config.names.fromMap
          (.cast source (decodedMap false)) (forwardedMapper config)).WellFormed := by
        refine ⟨hname.isName, ?_, ?_, ⟨hoperand, hsource, rfl⟩, isName_forwardedMapper hnames⟩
        · rw [hnames]
          decide
        · rw [hnames]
          decide
      rw [deserialize]
      split
      · exact ⟨hoperand, hsource, hcall⟩
      · exact hcall

end Conversions

end Memberwise
