import Memberwise.Proofs.Conversion.Names
import Memberwise.Proofs.Dart.Evaluation

/-!
# What a deserializer restores

The two conversions of a value follow the same type.  Each level of the type is looked at
with the null marks of that level, so that null passes through both conversions where it
may stand, and every other value is taken apart and put together again.

Main results:

- Theorem {lit}`evaluate_serialize`: what a value is taken apart into.
- Theorem {lit}`evaluate_deserialize`: the value is put together again from that.
-/

namespace Memberwise

open Memberwise.Dart

/-! ## Types whose maps have strings as keys -/

/-- Whether every map at any level of a type has strings that are not null as its keys. -/
def KeyedByStrings : DartType → Prop
  | .scalar _ _ => True
  | .list element _ => KeyedByStrings element
  | .map key value _ => key = .scalar .string false ∧ KeyedByStrings value
  | .model _ _ => True

/-! ## Stored values -/

section Stored

variable {Object : Type}

/-- The key mapper that nested models receive in a run with some key mapper. -/
def passedMapper (config : Config) (mapper : String → String) : Option (String → String) :=
  if config.options.addKeyMapper then some mapper else none

/-- What a value of a type is taken apart into: its models become maps, at every level. -/
def pack (models : Models Object) (mapper : Option (String → String)) :
    DartType → Value Object → Value Object
  | .list element _, .list elements => .list (elements.map (pack models mapper element))
  | .map _ value _, .map entries =>
      .map (entries.map fun entry => (entry.1, pack models mapper value entry.2))
  | .model _ _, .object object => .map (models.toMap object mapper)
  | _, value => value

end Stored

/-! ## Places where a conversion runs -/

section Places

variable {Object : Type} {config : Config} {mapper : String → String}

/-- Whether a scope hands the key mapper on, if there is one. -/
def Forwards (config : Config) (mapper : String → String) (scope : Scope Object) : Prop :=
  scope.forwarded? (forwardedMapper config) = some (passedMapper config mapper)

/-- Whether no variable of a scope is called as a class can be. -/
def LeavesClasses (scope : Scope Object) : Prop :=
  ∀ name, IsClassName name → scope name = none

/-- A closure parameter does not hide the key mapper. -/
theorem Forwards.bind {scope : Scope Object} (hnames : config.names = {})
    (h : Forwards config mapper scope) {base : String} (hbase : base ≠ "keyMapper")
    (depth : Nat) (value : Value Object) :
    Forwards config mapper (scope.bind (parameterName base depth) value) := by
  have hne : "keyMapper" ≠ parameterName base depth :=
    (parameterName_ne hbase (by decide) depth).symm
  unfold Forwards forwardedMapper at h ⊢
  split
  · rename_i hadd
    rw [if_pos hadd, hnames] at h
    rw [hnames, ← h]
    simp only [Scope.forwarded?, Scope.mapper?, Scope.bind_of_ne scope value hne]
  · rename_i hadd
    rwa [if_neg hadd] at h

/-- The parameter of a closure over elements does not hide the key mapper. -/
theorem Forwards.bindElement {scope : Scope Object} (hnames : config.names = {})
    (h : Forwards config mapper scope) (depth : Nat) (element : Value Object) :
    Forwards config mapper (scope.bind (parameterName "e" depth) element) :=
  h.bind hnames (by decide) depth element

/-- The parameters of a closure over entries do not hide the key mapper. -/
theorem Forwards.bindEntry {scope : Scope Object} (hnames : config.names = {})
    (h : Forwards config mapper scope) (depth : Nat) (entry : String × Value Object) :
    Forwards config mapper ((scope.bind (parameterName "key" depth) (.string entry.1)).bind
      (parameterName "value" depth) entry.2) :=
  (h.bind hnames (by decide) depth _).bind hnames (by decide) depth _

/-- A closure parameter hides no class. -/
theorem LeavesClasses.bind {scope : Scope Object} (h : LeavesClasses scope) {base : String}
    (hbase : base.toList ≠ []) (hlower : base.toList.head?.any Char.isUpper = false)
    (depth : Nat) (value : Value Object) :
    LeavesClasses (scope.bind (parameterName base depth) value) := by
  intro name hname
  rw [Scope.bind_of_ne scope value (hname.ne_parameterName hbase hlower depth)]
  exact h name hname

/-- The parameter of a closure over elements hides no class. -/
theorem LeavesClasses.bindElement {scope : Scope Object} (h : LeavesClasses scope)
    (depth : Nat) (element : Value Object) :
    LeavesClasses (scope.bind (parameterName "e" depth) element) :=
  h.bind (by decide) (by decide) depth element

/-- The parameters of a closure over entries hide no class. -/
theorem LeavesClasses.bindEntry {scope : Scope Object} (h : LeavesClasses scope) (depth : Nat)
    (entry : String × Value Object) :
    LeavesClasses ((scope.bind (parameterName "key" depth) (.string entry.1)).bind
      (parameterName "value" depth) entry.2) :=
  (h.bind (by decide) (by decide) depth _).bind (by decide) (by decide) depth _

end Places

/-! ## Serializers -/

section Conversions

variable {Object : Type} {models : Models Object} {config : Config}
  {mapper : String → String}

/-- The parameters of a closure over entries are different. -/
theorem key_ne_value (depth : Nat) : parameterName "key" depth ≠ parameterName "value" depth :=
  parameterName_ne_parameterName (by decide) (by decide) (by decide) depth depth

/-- The serializer of a type takes its values apart. -/
theorem evaluate_serialize (hnames : config.names = {}) {type : DartType} {depth : Nat}
    {scope : Scope Object} {source : Expression} {value : Value Object}
    (hscope : Forwards config mapper scope) (hvalue : conforms models type value = true)
    (hsource : evaluate models scope source = some value) :
    evaluate models scope (serialize config type depth source) =
      some (pack models (passedMapper config mapper) type value) := by
  -- the closures of a level run in scopes of their own, which still hand the key mapper on
  induction type generalizing depth scope source value with
  | scalar name nullable =>
      rw [serialize, hsource]
      cases value <;> rfl
  | list element nullable ih =>
      rcases conforms_list_iff.mp hvalue with ⟨rfl, rfl⟩ | ⟨elements, rfl, helements⟩
      · exact evaluate_mapElements_null hsource
      · have htarget : evaluate models scope source = some (.list (elements.map id)) := by
          rw [hsource, List.map_id]
        refine evaluate_mapElements htarget ?_
        intro member hmember
        exact ih (hscope.bindElement hnames depth member) (helements member hmember)
          (evaluate_bound _ _ _)
  | map key inner nullable _ ih =>
      rcases conforms_map_iff.mp hvalue with ⟨rfl, rfl⟩ | ⟨entries, rfl, hnodup, hentries⟩
      · exact evaluate_mapValues_null hsource
      · have htarget : evaluate models scope source =
            some (.map (entries.map fun entry => (entry.1, id entry.2))) := by
          simpa using hsource
        refine evaluate_mapValues (key_ne_value depth) hnodup htarget ?_
        intro entry hentry
        exact ih (hscope.bindEntry hnames depth entry) (hentries entry hentry).2
          (evaluate_bound _ _ _)
  | model name nullable =>
      rcases conforms_model_iff.mp hvalue with ⟨rfl, rfl⟩ | ⟨object, rfl, _⟩
      · exact evaluate_toMap_null hsource
      · rw [serialize, hnames]
        exact evaluate_toMap hsource hscope

/-! ## Deserializers -/

/-- Every list is a decoded list. -/
theorem conforms_decodedList (elements : List (Value Object)) (nullable : Bool) :
    conforms models (decodedList nullable) (.list elements) = true := by
  refine conforms_list_iff.mpr (Or.inr ⟨elements, rfl, ?_⟩)
  intro element _
  cases element <;> rfl

/-- Every map is a decoded map. -/
theorem conforms_decodedMap {entries : List (String × Value Object)}
    (hnodup : (entries.map Prod.fst).Nodup) (nullable : Bool) :
    conforms models (decodedMap nullable) (.map entries) = true := by
  refine conforms_map_iff.mpr (Or.inr ⟨entries, rfl, hnodup, ?_⟩)
  intro entry _
  refine ⟨rfl, ?_⟩
  cases entry.2 <;> rfl

/-- The deserializer of a type restores the values of the type from what they are taken
apart into. -/
theorem evaluate_deserialize (hnames : config.names = {}) (hrestore : models.Restore)
    (hmapper : Function.Injective ((passedMapper config mapper).getD id)) {type : DartType}
    (hclasses : ∀ name ∈ type.modelNames, IsClassName name) (hkeyed : KeyedByStrings type)
    {depth : Nat} {position : Position} {scope : Scope Object} {source : Expression}
    {value : Value Object} (hscope : Forwards config mapper scope)
    (hleaves : LeavesClasses scope) (hvalue : conforms models type value = true)
    (hsource : evaluate models scope source =
      some (pack models (passedMapper config mapper) type value)) :
    evaluate models scope (deserialize config type depth position source) = some value := by
  induction type generalizing depth position scope source value with
  | scalar name nullable =>
      have hpack : pack models (passedMapper config mapper) (.scalar name nullable) value =
          value := by
        cases value <;> rfl
      rw [hpack] at hsource
      rw [deserialize]
      split
      · exact evaluate_cast hvalue hsource
      · exact hsource
  | list element nullable ih =>
      rcases conforms_list_iff.mp hvalue with ⟨rfl, rfl⟩ | ⟨elements, rfl, helements⟩
      · exact evaluate_mapElements_null (evaluate_parenthesized_cast rfl hsource)
      · have htarget := evaluate_parenthesized_cast (conforms_decodedList _ nullable) hsource
        have hbody : ∀ member ∈ elements,
            evaluate models
              (scope.bind (parameterName "e" depth)
                (pack models (passedMapper config mapper) element member))
              (deserialize config element (depth + 1) .element
                (.reference (parameterName "e" depth))) = some (id member) := by
          intro member hmember
          exact ih hclasses hkeyed (hscope.bindElement hnames depth _)
            (hleaves.bindElement depth _) (helements member hmember) (evaluate_bound _ _ _)
        have hresult := @evaluate_mapElements _ models scope _ _ nullable _ _ _ _ _ htarget hbody
        rwa [List.map_id] at hresult
  | map key inner nullable _ ih =>
      have hclasses' : ∀ name ∈ inner.modelNames, IsClassName name := by
        intro name hname
        exact hclasses name (List.mem_append_right _ hname)
      rcases conforms_map_iff.mp hvalue with ⟨rfl, rfl⟩ | ⟨entries, rfl, hnodup, hentries⟩
      · exact evaluate_mapValues_null (evaluate_parenthesized_cast rfl hsource)
      · have hkeys : ((entries.map fun entry =>
            (entry.1, pack models (passedMapper config mapper) inner entry.2)).map
              Prod.fst).Nodup := by
          rwa [List.map_map]
        have htarget := evaluate_parenthesized_cast (conforms_decodedMap hkeys nullable) hsource
        have hbody : ∀ entry ∈ entries,
            evaluate models
              ((scope.bind (parameterName "key" depth) (.string entry.1)).bind
                (parameterName "value" depth)
                (pack models (passedMapper config mapper) inner entry.2))
              (deserialize config inner (depth + 1) .element
                (.reference (parameterName "value" depth))) = some (id entry.2) := by
          intro entry hentry
          exact ih hclasses' hkeyed.2 (hscope.bindEntry hnames depth (entry.1, _))
            (hleaves.bindEntry depth (entry.1, _)) (hentries entry hentry).2
            (evaluate_bound _ _ _)
        have hresult := @evaluate_mapValues _ models scope _ _ nullable _ _ _ _ _ _
          (key_ne_value depth) hnodup htarget hbody
        rw [show (entries.map fun entry => (entry.1, id entry.2)) = entries by simp] at hresult
        exact hresult
  | model name nullable =>
      have hmodel := hleaves name (hclasses name (by simp [DartType.modelNames]))
      rcases conforms_model_iff.mp hvalue with ⟨rfl, rfl⟩ | ⟨object, rfl, hinstance⟩
      · exact evaluate_unlessNull_null hsource
      · have hpacked : evaluate models scope source =
            some (.map (models.toMap object (passedMapper config mapper))) := hsource
        have hcast := evaluate_cast
          (conforms_decodedMap (models.nodup_toMap object _) false) hpacked
        have hcall := evaluate_fromMap hmodel hcast hscope
          (hrestore name object _ hinstance hmapper)
        rw [deserialize, hnames]
        cases nullable with
        | false => exact hcall
        | true => exact (evaluate_unlessNull (by simp) hpacked).trans hcall

end Conversions

end Memberwise
