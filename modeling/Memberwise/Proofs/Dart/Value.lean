import Memberwise.Dart.Type

/-!
# Values at run time

What the variables of generated code hold while it runs, which of these values have a
declared type, and the conversions of user models as a class can rely on them.

Main results:

- Theorem {lit}`ofPairs_eq_self`: inserting entries with different keys gives exactly
  these entries.
- Theorems {lit}`conforms_list_iff`, {lit}`conforms_map_iff` and
  {lit}`conforms_model_iff`: the values of a type, level by level.
-/

namespace Memberwise.Dart

/-! ## Values -/

/-- A value of a running program.  The maps are those whose keys are declared to be
strings; every value of another kind is an object. -/
inductive Value (Object : Type) where
  | null
  | bool (value : Bool)
  | int (value : Int)
  | double (value : Float)
  | string (value : String)
  /-- A point in time. -/
  | dateTime (microsecondsSinceEpoch : Int) (isUtc : Bool)
  | list (elements : List (Value Object))
  /-- The entries of a map in the order of their insertion. -/
  | map (entries : List (String × Value Object))
  | object (object : Object)

/-! ## Entries -/

section Entries

variable {α : Type}

/-- Sets the value under a key, in place if the key is there and at the end if not. -/
def put (entries : List (String × α)) (key : String) (value : α) : List (String × α) :=
  if key ∈ entries.map Prod.fst then
    entries.map fun entry => if entry.1 = key then (key, value) else entry
  else
    entries ++ [(key, value)]

/-- The entries of the map into which some pairs are put one after the other. -/
def ofPairs (pairs : List (String × α)) : List (String × α) :=
  pairs.foldl (fun entries pair => put entries pair.1 pair.2) []

/-- Pairs with new and different keys are put at the end. -/
theorem foldl_put {entries pairs : List (String × α)}
    (h : ((entries ++ pairs).map Prod.fst).Nodup) :
    pairs.foldl (fun entries pair => put entries pair.1 pair.2) entries =
      entries ++ pairs := by
  induction pairs generalizing entries with
  | nil => simp
  | cons pair pairs ih =>
      have hnew : pair.1 ∉ entries.map Prod.fst := by
        rw [List.map_append, List.nodup_append] at h
        intro hmem
        exact h.2.2 pair.1 hmem pair.1 (by simp) rfl
      rw [List.foldl_cons, put, if_neg hnew, ih (by simpa using h), List.append_assoc,
        List.singleton_append]

/-- Inserting entries with different keys gives exactly these entries. -/
theorem ofPairs_eq_self {pairs : List (String × α)} (h : (pairs.map Prod.fst).Nodup) :
    ofPairs pairs = pairs := by
  have hempty : (([] ++ pairs).map Prod.fst).Nodup := by rwa [List.nil_append]
  have hfold := foldl_put hempty
  rwa [List.nil_append] at hfold

/-- Among entries with different keys, the value of an entry is found under its key. -/
theorem lookup_of_mem {entries : List (String × α)} (hnodup : (entries.map Prod.fst).Nodup)
    {key : String} {value : α} (h : (key, value) ∈ entries) :
    entries.lookup key = some value := by
  rcases List.append_of_mem h with ⟨before, after, rfl⟩
  rw [List.map_append, List.map_cons, List.nodup_append] at hnodup
  rw [List.lookup_eq_some_iff]
  refine ⟨before, after, rfl, ?_⟩
  intro entry hentry
  have hne := hnodup.2.2 entry.1 (List.mem_map_of_mem hentry) key (by simp)
  simpa using hne.symm

end Entries

/-! ## User models -/

/-- The user models that a program knows: which objects are their instances, and their
conversions.  A conversion takes a key mapper or none, and the conversion from a map may
fail. -/
structure Models (Object : Type) where
  isInstance : String → Object → Bool
  toMap : Object → Option (String → String) → List (String × Value Object)
  /-- What a conversion gives is a map, which has no key twice. -/
  nodup_toMap : ∀ object mapper, ((toMap object mapper).map Prod.fst).Nodup
  fromMap : String → List (String × Value Object) → Option (String → String) → Option Object

/-- Whether every model restores its instances from the maps that they are converted to, as
long as the key mapper keeps keys apart.  A missing key mapper leaves keys as they are. -/
def Models.Restore {Object : Type} (models : Models Object) : Prop :=
  ∀ name object mapper, models.isInstance name object = true →
    Function.Injective (mapper.getD id) →
      models.fromMap name (models.toMap object mapper) mapper = some object

/-! ## Conformance -/

section Conformance

variable {Object : Type} (models : Models Object)

/-- Whether a scalar type has a value that is not null. -/
def Scalar.accepts : Scalar → Value Object → Bool
  | .dynamic, _ => true
  | .int, .int _ => true
  | .double, .double _ => true
  | .num, .int _ => true
  | .num, .double _ => true
  | .string, .string _ => true
  | .bool, .bool _ => true
  | .dateTime, .dateTime _ _ => true
  | _, _ => false

/-- Whether a value has a declared type.  Every level accepts null exactly if it is
nullable, and a dynamic one accepts every value. -/
def conforms : DartType → Value Object → Bool
  | .scalar name nullable, .null => nullable || name == .dynamic
  | .scalar name _, value => name.accepts value
  | .list _ nullable, .null => nullable
  | .list element _, .list elements => elements.all (conforms element)
  | .map _ _ nullable, .null => nullable
  | .map key value _, .map entries =>
      decide (entries.map Prod.fst).Nodup &&
        entries.all fun entry => conforms key (.string entry.1) && conforms value entry.2
  | .model _ nullable, .null => nullable
  | .model name _, .object object => models.isInstance name object
  | _, _ => false

variable {models} {value : Value Object} {nullable : Bool}

/-- A list type has null if it is nullable, and the lists of values of its element type. -/
theorem conforms_list_iff {element : DartType} :
    conforms models (.list element nullable) value = true ↔
      (value = .null ∧ nullable = true) ∨
        ∃ elements, value = .list elements ∧
          ∀ v ∈ elements, conforms models element v = true := by
  cases value <;> simp [conforms]

/-- A map type has null if it is nullable, and the maps of keys and values of its key and
value types. -/
theorem conforms_map_iff {key type : DartType} :
    conforms models (.map key type nullable) value = true ↔
      (value = .null ∧ nullable = true) ∨
        ∃ entries, value = .map entries ∧ (entries.map Prod.fst).Nodup ∧
          ∀ entry ∈ entries, conforms models key (.string entry.1) = true ∧
            conforms models type entry.2 = true := by
  cases value <;> simp [conforms]

/-- A model type has null if it is nullable, and the instances of the model. -/
theorem conforms_model_iff {name : String} :
    conforms models (.model name nullable) value = true ↔
      (value = .null ∧ nullable = true) ∨
        ∃ object, value = .object object ∧ models.isInstance name object = true := by
  cases value <;> simp [conforms]

end Conformance

end Memberwise.Dart
