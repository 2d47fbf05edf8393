import Memberwise.Proofs.Command.Formats

/-!
# Classification

The command that classifies prints a tree for each signature.  Every level of it is an object that
is tagged with its kind, and whose other members are looked up by their names.  Nothing is lost in
this: the type of a signature is found again in what is printed for it.

Main definitions:

- {lit}`typeDatum`: the tagged tree of a type.
- {lit}`typeOfDatum?`: the type of a tagged tree.
- {lit}`elementOf`: the tagged tree that is printed for a signature.

Main results:

- Theorem {lit}`typeOfDatum?_typeDatum`: the type of the tree of a type is that type.
- Theorem {lit}`decode_typesJson`: what is printed for some types is decoded to their trees.
- Theorem {lit}`classify_determines_types`: what is printed for signatures determines their types.
-/

namespace Memberwise.Json.Datum

/-! ## Parts of data -/

/-- The value of a truth value. -/
def truth? : Datum → Option Bool
  | boolean value => some value
  | _ => none

/-- The value of a truth value is the one that it is made of. -/
@[simp]
theorem truth?_boolean (value : Bool) : (boolean value).truth? = some value :=
  rfl

/-- A member of an object is smaller than the object. -/
theorem sizeOf_lt_of_member? {name : String} {datum value : Datum}
    (h : datum.member? name = some value) : sizeOf value < sizeOf datum := by
  cases datum with
  | object members =>
      obtain ⟨before, after, rfl, -⟩ := List.lookup_eq_some_iff.mp h
      have hmember : (name, value) ∈ before ++ (name, value) :: after := by simp
      have hlt := List.sizeOf_lt_of_mem hmember
      simp only [Prod.mk.sizeOf_spec, object.sizeOf_spec] at hlt ⊢
      omega
  | null => contradiction
  | boolean value => contradiction
  | number text => contradiction
  | string value => contradiction
  | array elements => contradiction

end Memberwise.Json.Datum

namespace Memberwise.Command

open Memberwise.Dart Memberwise.Files
open Memberwise.Json (Datum decode)

/-! ## Tagged trees -/

/-- The tagged tree of a type: at every level its kind, its parts and whether it is nullable. -/
def typeDatum : DartType → Datum
  | .scalar name nullable =>
      .object
        [("kind", .string "scalar"), ("name", .string name.name), ("nullable", .boolean nullable)]
  | .list element nullable =>
      .object
        [("kind", .string "list"), ("element", typeDatum element),
          ("nullable", .boolean nullable)]
  | .map key value nullable =>
      .object
        [("kind", .string "map"), ("key", typeDatum key), ("value", typeDatum value),
          ("nullable", .boolean nullable)]
  | .model name nullable =>
      .object
        [("kind", .string "object"), ("name", .string name), ("nullable", .boolean nullable)]

/-- The type of a tagged tree, whose parts may come in any order. -/
def typeOfDatum? (datum : Datum) : Option DartType := do
  let kind ← (datum.member? "kind").bind Datum.text?
  let nullable ← (datum.member? "nullable").bind Datum.truth?
  match kind with
  | "scalar" =>
      let name ← (datum.member? "name").bind Datum.text?
      return .scalar (← Scalar.ofName? name) nullable
  | "list" =>
      match helement : datum.member? "element" with
      | some element =>
          have := Datum.sizeOf_lt_of_member? helement
          return .list (← typeOfDatum? element) nullable
      | none => none
  | "map" =>
      match hkey : datum.member? "key", hvalue : datum.member? "value" with
      | some key, some value =>
          have := Datum.sizeOf_lt_of_member? hkey
          have := Datum.sizeOf_lt_of_member? hvalue
          return .map (← typeOfDatum? key) (← typeOfDatum? value) nullable
      | _, _ => none
  | "object" =>
      let name ← (datum.member? "name").bind Datum.text?
      return .model name nullable
  | _ => none
termination_by datum

/-- The type of the tree of a type is that type. -/
theorem typeOfDatum?_typeDatum (type : DartType) : typeOfDatum? (typeDatum type) = some type := by
  induction type with
  | scalar name nullable =>
      rw [typeOfDatum?]
      simp [typeDatum, List.lookup_cons, Scalar.ofName?_name]
  | list element nullable ih =>
      rw [typeOfDatum?]
      simp [typeDatum, List.lookup_cons, ih]
  | map key value nullable ihkey ihvalue =>
      rw [typeOfDatum?]
      simp [typeDatum, List.lookup_cons, ihkey, ihvalue]
  | model name nullable =>
      rw [typeOfDatum?]
      simp [typeDatum, List.lookup_cons]

/-- Types with the same tree are the same. -/
theorem typeDatum_injective : Function.Injective typeDatum := by
  intro type type' h
  have htype := typeOfDatum?_typeDatum type
  rw [h, typeOfDatum?_typeDatum] at htype
  exact (Option.some.inj htype).symm

/-! ## Printed trees -/

/-- A type is printed as its tree. -/
theorem datum_typeValue (type : DartType) : (typeValue type).datum = typeDatum type := by
  induction type with
  | scalar name nullable => rfl
  | list element nullable ih =>
      simp only [typeValue, Json.Value.datum, Json.memberData, ih, typeDatum]
  | map key value nullable ihkey ihvalue =>
      simp only [typeValue, Json.Value.datum, Json.memberData, ihkey, ihvalue, typeDatum]
  | model name nullable => rfl

/-- What is printed for some types is decoded to their trees. -/
theorem decode_typesJson (types : List DartType) :
    decode (typesJson types ++ "\n") = some (.array (types.map typeDatum)) := by
  have hdatum : Json.Value.datum ∘ typeValue = typeDatum := funext datum_typeValue
  rw [typesJson, Json.decode_pretty_array _ (show Json.IsBlanks "\n".toList from rfl), hdatum]

/-- The same is printed for types exactly if they are the same. -/
theorem typesJson_eq_iff {types types' : List DartType} :
    typesJson types = typesJson types' ↔ types = types' := by
  constructor
  · intro h
    have hdata := decode_typesJson types
    rw [h, decode_typesJson, Option.some_inj, Datum.array.injEq] at hdata
    exact (List.map_injective_iff.mpr typeDatum_injective hdata).symm
  · rintro rfl
    rfl

/-! ## Runs -/

/-- Signatures are classified as they are behind two hyphens. -/
theorem read_classify {signatures : List String} (h : signatures ≠ []) :
    Invocation.read ("classify" :: "--" :: signatures) = .ok (.classify false signatures) := by
  have hword : Word.ofText "classify" = .plain "classify" := rfl
  have hseparator : Word.ofText "--" = .separator := rfl
  simp [Invocation.read, readArguments, hword, readCommand, readClassify, hseparator, h, bind,
    Except.bind, pure, Except.pure]

/-- What comes of a run that is asked to classify. -/
theorem run_classify {words : List String} {verbose : Bool} {signatures : List String}
    (hread : Invocation.read words = .ok (.classify verbose signatures))
    (surroundings : Surroundings) (text : Option String) :
    run surroundings text words =
      ⟨0, typesJson (signatures.map Signature.typeOf) ++ "\n", [], surroundings.tree⟩ := by
  rw [run, plan, hread]
  rfl

/-- The element that is printed for a signature. -/
def elementOf (signature : String) : Datum :=
  typeDatum (Signature.typeOf signature)

/-- Classification loses nothing.  The type of a signature is found again in its element, so two
signatures have the same element exactly if their types are the same.  Whatever signatures a run
is asked to classify, what it prints is decoded to an array of their elements, in order, and two
runs print the same exactly if their signatures have the same types.  There is such a run for all
signatures. -/
theorem classify_determines_types :
    (∀ signature, typeOfDatum? (elementOf signature) = some (Signature.typeOf signature)) ∧
    (∀ signature other, elementOf signature = elementOf other ↔
      Signature.typeOf signature = Signature.typeOf other) ∧
    (∀ words verbose signatures surroundings text,
      Invocation.read words = .ok (.classify verbose signatures) →
      decode (run surroundings text words).output = some (.array (signatures.map elementOf))) ∧
    (∀ words words' verbose verbose' signatures signatures' surroundings text,
      Invocation.read words = .ok (.classify verbose signatures) →
      Invocation.read words' = .ok (.classify verbose' signatures') →
      ((run surroundings text words).output = (run surroundings text words').output ↔
        signatures.map Signature.typeOf = signatures'.map Signature.typeOf)) ∧
    ∀ signatures, signatures ≠ [] →
      Invocation.read ("classify" :: "--" :: signatures) = .ok (.classify false signatures) := by
  refine ⟨?_, ?_, ?_, ?_, fun _ => read_classify⟩
  · intro signature
    exact typeOfDatum?_typeDatum _
  · intro signature other
    exact typeDatum_injective.eq_iff
  · intro words verbose signatures surroundings text hread
    rw [run_classify hread, decode_typesJson, List.map_map]
    rfl
  · intro words words' verbose verbose' signatures signatures' surroundings text hread hread'
    rw [run_classify hread, run_classify hread', String.append_left_inj, typesJson_eq_iff]

/-- Two signatures with brackets that do not match, one of which names a type with a quote and a
line feed in it. -/
theorem classify_determines_types_malformed :
    (decode (run { tree := { root := [] } } none
        ["classify", "--", "List<\"\n\"", "Map<String, \"?>>?"]).output).map
      (fun datum => datum.elements.map typeOfDatum?) =
      some [some (.list (.model "\"\n\"" false) false),
        some (.map (.scalar .string false) (.model "\"" true) true)] := by
  obtain ⟨htype, -, hdecode, -, hread⟩ := classify_determines_types
  have hfirst : Signature.typeOf "List<\"\n\"" = .list (.model "\"\n\"" false) false := by
    decide +kernel
  have hsecond : Signature.typeOf "Map<String, \"?>>?" =
      .map (.scalar .string false) (.model "\"" true) true := by
    decide +kernel
  rw [hdecode _ _ _ _ _ (hread ["List<\"\n\"", "Map<String, \"?>>?"] (by decide))]
  simp [htype, hfirst, hsecond]

end Memberwise.Command
