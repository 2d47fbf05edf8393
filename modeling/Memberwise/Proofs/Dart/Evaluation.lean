import Mathlib.Logic.Function.Basic
import Memberwise.Config
import Memberwise.Dart.Expression
import Memberwise.Proofs.Dart.Value
import Memberwise.Proofs.Results

/-!
# Evaluation

What an expression of a conversion evaluates to.  An evaluation that would throw, or that
would call something that is not there, has no value.

Main definitions:

- {lit}`Scope`: what the names at some place of a program denote.
- {lit}`evaluate`: the value of an expression in a scope.

Main results:

- Theorem {lit}`evaluate_mapElements`: the images of all elements make the list of the
  images.
- Theorem {lit}`evaluate_mapValues`: the images of all values make the map of the images.
-/

namespace Memberwise.Dart

variable {Object : Type}

/-! ## Scopes -/

/-- What a name that is not a class denotes. -/
inductive Meaning (Object : Type) where
  | value (value : Value Object)
  | mapper (mapper : String → String)

/-- What the names at some place of a program denote.  A name without a meaning is free
to name a class. -/
abbrev Scope (Object : Type) :=
  String → Option (Meaning Object)

namespace Scope

/-- The scope inside a closure whose parameter has a value. -/
def bind (scope : Scope Object) (name : String) (value : Value Object) : Scope Object :=
  Function.update scope name (some (.value value))

@[simp]
theorem bind_self (scope : Scope Object) (name : String) (value : Value Object) :
    scope.bind name value name = some (.value value) := by
  rw [bind, Function.update_self]

/-- A parameter hides no other name. -/
theorem bind_of_ne (scope : Scope Object) {name other : String} (value : Value Object)
    (h : other ≠ name) : scope.bind name value other = scope other := by
  rw [bind, Function.update_of_ne h]

/-- The value of a variable. -/
def value? (scope : Scope Object) (name : String) : Option (Value Object) :=
  match scope name with
  | some (.value value) => some value
  | _ => none

/-- The function that a name stands for. -/
def mapper? (scope : Scope Object) (name : String) : Option (String → String) :=
  match scope name with
  | some (.mapper mapper) => some mapper
  | _ => none

/-- The key mapper that the call of a conversion gets.  Conversions have one named
parameter, which is called as the default names have it. -/
def forwarded? (scope : Scope Object) : Option String → Option (Option (String → String))
  | none => some none
  | some name =>
      if name = ({} : Names).keyMapper then (scope.mapper? name).map some else none

end Scope

/-! ## Expressions -/

/-- The entry that a closure makes of an entry: its key is the key parameter, and its value
is computed inside the closure. -/
def entryImage (scope : Scope Object) (key value : String)
    (image : Scope Object → Option (Value Object)) (entry : String × Value Object) :
    Option (String × Value Object) :=
  let inner := (scope.bind key (.string entry.1)).bind value entry.2
  match inner.value? key with
  | some (.string name) => (image inner).map (name, ·)
  | _ => none

/-- The value of an expression, if its evaluation succeeds.  `MapEntry` and the members of
lists and maps have their usual meaning. -/
@[simp]
def evaluate (models : Models Object) : Scope Object → Expression → Option (Value Object)
  | scope, .reference name => scope.value? name
  | _, .literal text => some (.string text)
  | scope, .apply function argument =>
      match scope.mapper? function, evaluate models scope argument with
      | some mapper, some (.string text) => some (.string (mapper text))
      | _, _ => none
  | scope, .index map key =>
      match evaluate models scope map, evaluate models scope key with
      | some (.map entries), some (.string key) => some ((entries.lookup key).getD .null)
      | _, _ => none
  | scope, .cast operand type =>
      (evaluate models scope operand).filter (conforms models type)
  | scope, .parenthesized inner => evaluate models scope inner
  | scope, .mapElements target nullAware element body =>
      match evaluate models scope target with
      | some (.list elements) =>
          (elements.mapM fun v => evaluate models (scope.bind element v) body).map .list
      | some .null => if nullAware then some .null else none
      | _ => none
  | scope, .mapValues target nullAware key value body =>
      match evaluate models scope target with
      | some (.map entries) => do
          let pairs ← entries.mapM
            (entryImage scope key value fun inner => evaluate models inner body)
          some (.map (ofPairs pairs))
      | some .null => if nullAware then some .null else none
      | _ => none
  | scope, .toMap target nullAware method keyMapper =>
      match evaluate models scope target with
      | some (.object object) =>
          if method = ({} : Names).toMap then
            (scope.forwarded? keyMapper).map fun mapper => .map (models.toMap object mapper)
          else
            none
      | some .null => if nullAware then some .null else none
      | _ => none
  | scope, .fromMap model method source keyMapper =>
      match scope model, evaluate models scope source with
      | none, some (.map entries) =>
          if method = ({} : Names).fromMap then do
            let mapper ← scope.forwarded? keyMapper
            (models.fromMap model entries mapper).map .object
          else
            none
      | _, _ => none
  | scope, .unlessNull subject body =>
      match evaluate models scope subject with
      | none => none
      | some .null => some .null
      | some _ => evaluate models scope body

/-! ## Variables, casts and guards -/

section Evaluations

variable {models : Models Object} {scope : Scope Object}

/-- A variable that has just been bound has its value. -/
theorem evaluate_bound (scope : Scope Object) (name : String) (value : Value Object) :
    evaluate models (scope.bind name value) (.reference name) = some value := by
  rw [evaluate, Scope.value?, Scope.bind_self]

/-- A cast keeps a value of the type. -/
theorem evaluate_cast {operand : Expression} {type : DartType}
    {value : Value Object} (hvalue : conforms models type value = true)
    (hoperand : evaluate models scope operand = some value) :
    evaluate models scope (.cast operand type) = some value := by
  rw [evaluate, hoperand, Option.filter_some, if_pos hvalue]

/-- A cast in brackets keeps a value of the type. -/
theorem evaluate_parenthesized_cast {operand : Expression}
    {type : DartType} {value : Value Object} (hvalue : conforms models type value = true)
    (hoperand : evaluate models scope operand = some value) :
    evaluate models scope (.parenthesized (.cast operand type)) = some value := by
  rw [evaluate, evaluate_cast hvalue hoperand]

/-- A guard gives null where its subject is null. -/
theorem evaluate_unlessNull_null {subject body : Expression}
    (hsubject : evaluate models scope subject = some .null) :
    evaluate models scope (.unlessNull subject body) = some .null := by
  rw [evaluate, hsubject]

/-- A guard lets its body through where its subject is not null. -/
theorem evaluate_unlessNull {subject body : Expression} {value : Value Object}
    (hvalue : value ≠ .null) (hsubject : evaluate models scope subject = some value) :
    evaluate models scope (.unlessNull subject body) = evaluate models scope body := by
  rw [evaluate, hsubject]
  cases value <;> first | rfl | contradiction

/-! ## Conversions of user models -/

variable {keyMapper : Option String} {mapper : Option (String → String)} {object : Object}

/-- A user model is converted to its map. -/
theorem evaluate_toMap {target : Expression} {nullAware : Bool}
    (htarget : evaluate models scope target = some (.object object))
    (hmapper : scope.forwarded? keyMapper = some mapper) :
    evaluate models scope (.toMap target nullAware ({} : Names).toMap keyMapper) =
      some (.map (models.toMap object mapper)) := by
  rw [evaluate, htarget]
  dsimp only
  rw [if_pos rfl, hmapper, Option.map_some]

/-- A null-aware conversion of null gives null. -/
theorem evaluate_toMap_null {target : Expression} {method : String}
    (htarget : evaluate models scope target = some .null) :
    evaluate models scope (.toMap target true method keyMapper) = some .null := by
  rw [evaluate, htarget]
  rfl

/-- A user model is made of a map by the class that is called as the model. -/
theorem evaluate_fromMap {model : String} {source : Expression}
    {entries : List (String × Value Object)} (hmodel : scope model = none)
    (hsource : evaluate models scope source = some (.map entries))
    (hmapper : scope.forwarded? keyMapper = some mapper)
    (hcall : models.fromMap model entries mapper = some object) :
    evaluate models scope (.fromMap model ({} : Names).fromMap source keyMapper) =
      some (.object object) := by
  rw [evaluate, hmodel, hsource]
  dsimp only
  rw [if_pos rfl, hmapper, Option.bind_eq_bind, Option.bind_some, hcall, Option.map_some]

/-! ## Closures over all members -/

variable {target body : Expression} {nullAware : Bool}

/-- The images of all elements make the list of the images. -/
theorem evaluate_mapElements {α : Type} {members : List α} {before after : α → Value Object}
    {element : String}
    (htarget : evaluate models scope target = some (.list (members.map before)))
    (hbody : ∀ member ∈ members,
      evaluate models (scope.bind element (before member)) body = some (after member)) :
    evaluate models scope (.mapElements target nullAware element body) =
      some (.list (members.map after)) := by
  rw [evaluate, htarget]
  dsimp only
  rw [mapM_map_eq_some hbody, Option.map_some]

/-- A null-aware access to the elements of null gives null. -/
theorem evaluate_mapElements_null {element : String}
    (htarget : evaluate models scope target = some .null) :
    evaluate models scope (.mapElements target true element body) = some .null := by
  rw [evaluate, htarget]
  rfl

/-- An entry keeps its key. -/
theorem entryImage_eq {key value : String} (hparameters : key ≠ value)
    {image : Scope Object → Option (Value Object)} {entry : String × Value Object}
    {result : Value Object}
    (himage : image ((scope.bind key (.string entry.1)).bind value entry.2) = some result) :
    entryImage scope key value image entry = some (entry.1, result) := by
  have hkey : Scope.value? ((scope.bind key (.string entry.1)).bind value entry.2) key =
      some (.string entry.1) := by
    rw [Scope.value?, Scope.bind_of_ne _ _ hparameters, Scope.bind_self]
  simp only [entryImage, hkey, himage, Option.map_some]

/-- The images of all values make the map of the images. -/
theorem evaluate_mapValues {α : Type} {entries : List (String × α)}
    {before after : α → Value Object} {key value : String} (hparameters : key ≠ value)
    (hnodup : (entries.map Prod.fst).Nodup)
    (htarget : evaluate models scope target =
      some (.map (entries.map fun entry => (entry.1, before entry.2))))
    (hbody : ∀ entry ∈ entries,
      evaluate models ((scope.bind key (.string entry.1)).bind value (before entry.2)) body =
        some (after entry.2)) :
    evaluate models scope (.mapValues target nullAware key value body) =
      some (.map (entries.map fun entry => (entry.1, after entry.2))) := by
  have hkeys : ((entries.map fun entry => (entry.1, after entry.2)).map Prod.fst).Nodup := by
    rwa [List.map_map]
  rw [evaluate, htarget]
  dsimp only
  rw [mapM_map_eq_some fun entry hentry => entryImage_eq hparameters (hbody entry hentry),
    Option.bind_eq_bind, Option.bind_some, ofPairs_eq_self hkeys]

/-- A null-aware access to the entries of null gives null. -/
theorem evaluate_mapValues_null {key value : String}
    (htarget : evaluate models scope target = some .null) :
    evaluate models scope (.mapValues target true key value body) = some .null := by
  rw [evaluate, htarget]
  rfl

end Evaluations

end Memberwise.Dart
