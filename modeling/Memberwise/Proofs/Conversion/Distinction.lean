import Memberwise.Proofs.Conversion.Names
import Memberwise.Proofs.Signature.Spelling

/-!
# What a deserializer tells about its type

Two types have the same deserializer exactly if they differ in nothing but the keys
of their maps and the null marks of their dynamic levels.

Main results:

- Theorem {lit}`deserialize_essence`: a type has the same deserializer as its essence.
- Theorem {lit}`deserialize_text_eq_iff`: the text of a deserializer tells the essence of
  its type.
-/

namespace Memberwise

open Memberwise.Text Memberwise.Dart

/-! ## The essence of a type -/

/-- What a deserializer knows of a type: map keys count as plain strings, and dynamic
levels as unmarked. -/
def essence : DartType → DartType
  | .scalar .dynamic _ => .scalar .dynamic false
  | .scalar name nullable => .scalar name nullable
  | .list element nullable => .list (essence element) nullable
  | .map _ value nullable => .map (.scalar .string false) (essence value) nullable
  | .model name nullable => .model name nullable

/-- A type has the same deserializer as its essence. -/
theorem deserialize_essence (config : Config) (type : DartType) (depth : Nat)
    (position : Position) (source : Expression) :
    deserialize config (essence type) depth position source =
      deserialize config type depth position source := by
  induction type generalizing depth position source with
  | scalar name nullable => cases name <;> simp [essence, deserialize]
  | list element nullable ih => simp only [essence, deserialize, ih]
  | map key value nullable _ ih => simp only [essence, deserialize, ih]
  | model name nullable => rfl

/-! ## Sources -/

/-- What a conversion reads from: a variable, or the map under the key of a field. -/
inductive IsSource (config : Config) : Expression → Prop where
  | variable {name : String} (h : isIdentifier name = true) :
      IsSource config (.reference name)
  | access (field : Field) : IsSource config (mapAccess config field)

/-- A source begins with an identifier, and nothing or an opening bracket follows. -/
theorem IsSource.exists_text {config : Config} {source : Expression}
    (hconfig : config.names.AreIdentifiers) (h : IsSource config source) :
    ∃ word rest, source.text.toList = word.toList ++ rest ∧ isIdentifier word = true ∧
      ∀ c ∈ rest.head?, c = '[' := by
  cases h with
  | «variable» hname =>
      refine ⟨_, [], ?_, hname, by simp⟩
      simp [Expression.text]
  | access field =>
      refine ⟨config.names.mapVariable,
        '[' :: ((keyExpression config field.mapKey).text.toList ++ [']']), ?_,
        hconfig.mapVariable, by simp⟩
      simp [mapAccess, Expression.text]

/-! ## Texts level by level -/

section Texts

variable {config : Config} {source : Expression} {depth : Nat} {position : Position}

/-- What stands behind the source where a scalar is cast. -/
def castSuffix (name : Scalar) (nullable : Bool) : String :=
  if name = .dynamic then "" else " as " ++ (DartType.scalar name nullable).text

/-- What stands behind the source where a nullable model is guarded. -/
def guardSuffix : String :=
  " == null ? null : "

/-- What stands behind the name of a model where it is restored. -/
def callSuffix (config : Config) (source : Expression) : String :=
  "." ++ config.names.fromMap ++ "(" ++ (Expression.cast source (decodedMap false)).text
    ++ ((forwardedMapper config).map fun mapper => ", " ++ Expression.forwarded mapper).getD ""
    ++ ")"

theorem deserialize_scalar_text (hcasts : position.casts config = true) (name : Scalar)
    (nullable : Bool) :
    (deserialize config (.scalar name nullable) depth position source).text =
      source.text ++ castSuffix name nullable := by
  by_cases hname : name = .dynamic
  · simp [deserialize, castSuffix, hname]
  · simp [deserialize, castSuffix, hcasts, hname, Expression.text, String.append_assoc]

theorem fromMap_text (name : String) :
    (Expression.fromMap name config.names.fromMap (.cast source (decodedMap false))
      (forwardedMapper config)).text = name ++ callSuffix config source := by
  rw [Expression.text, callSuffix]
  simp only [String.append_assoc]

theorem deserialize_model_text (name : String) :
    (deserialize config (.model name false) depth position source).text =
      name ++ callSuffix config source := by
  rw [deserialize, if_neg (by decide), fromMap_text]

theorem deserialize_nullable_model_text (name : String) :
    (deserialize config (.model name true) depth position source).text =
      source.text ++ (guardSuffix ++ (name ++ callSuffix config source)) := by
  rw [deserialize, if_pos rfl, Expression.text, fromMap_text, String.append_assoc, guardSuffix]

/-- The text of a list's deserializer tells the nullability of the list and the text of
its element's deserializer. -/
theorem list_text_inj {left right : DartType} {a b : Bool}
    (h : (deserialize config (.list left a) depth position source).text =
      (deserialize config (.list right b) depth position source).text) :
    a = b ∧
      (deserialize config left (depth + 1) .element
          (.reference (parameterName "e" depth))).text =
        (deserialize config right (depth + 1) .element
          (.reference (parameterName "e" depth))).text := by
  rw [← String.toList_inj] at h ⊢
  cases a <;> cases b <;>
    simp_all [deserialize, Expression.text, DartType.text, decodedList, DartType.nullMark,
      Expression.accessMark, Scalar.name]

/-- The text of a map's deserializer tells the nullability of the map and the text of
its value's deserializer. -/
theorem map_text_inj {key key' left right : DartType} {a b : Bool}
    (h : (deserialize config (.map key left a) depth position source).text =
      (deserialize config (.map key' right b) depth position source).text) :
    a = b ∧
      (deserialize config left (depth + 1) .element
          (.reference (parameterName "value" depth))).text =
        (deserialize config right (depth + 1) .element
          (.reference (parameterName "value" depth))).text := by
  rw [← String.toList_inj] at h ⊢
  cases a <;> cases b <;>
    simp_all [deserialize, Expression.text, DartType.text, decodedMap, DartType.nullMark,
      Expression.accessMark, Scalar.name]

/-- A list and a map are decoded differently. -/
theorem list_text_ne_map {element key value : DartType} {a b : Bool} :
    (deserialize config (.list element a) depth position source).text ≠
      (deserialize config (.map key value b) depth position source).text := by
  intro h
  rw [← String.toList_inj] at h
  simp [deserialize, Expression.text, DartType.text, decodedList, decodedMap,
    DartType.nullMark, Scalar.name] at h

/-! ## The end of the first word -/

/-- The first character of a text that does not continue an identifier. -/
def wordStop (text : String) : Option Char :=
  (text.toList.dropWhile isIdentifierRest).head?

/-- An identifier is over where a character stands that does not continue it. -/
theorem wordStop_append {word rest : String} (hword : isIdentifier word = true)
    (hrest : ∀ c ∈ rest.toList.head?, isIdentifierRest c = false) :
    wordStop (word ++ rest) = rest.toList.head? := by
  rw [wordStop, String.toList_append,
    List.dropWhile_append_of_pos fun c => isIdentifierRest_of_mem hword]
  cases hlist : rest.toList with
  | nil => rfl
  | cons c chars =>
      have hc := hrest c (by rw [hlist]; rfl)
      rw [List.dropWhile_cons_of_neg (by simp [hc])]

/-- The first word of a source is over at its end or at an opening bracket, and a blank
may follow it. -/
theorem wordStop_source {suffix : String} (hconfig : config.names.AreIdentifiers)
    (hsource : IsSource config source) (hsuffix : ∀ c ∈ suffix.toList.head?, c = ' ') :
    ∀ c ∈ wordStop (source.text ++ suffix), c = '[' ∨ c = ' ' := by
  rcases hsource.exists_text hconfig with ⟨word, rest, htext, hword, hrest⟩
  have hhead : ∀ c ∈ (rest ++ suffix.toList).head?, c = '[' ∨ c = ' ' := by
    intro c hc
    cases rest with
    | nil => exact Or.inr (hsuffix c hc)
    | cons d chars => exact Or.inl (hrest c hc)
  have hstop : wordStop (word ++ String.ofList (rest ++ suffix.toList)) =
      (rest ++ suffix.toList).head? := by
    rw [wordStop_append hword, String.toList_ofList]
    intro c hc
    rw [String.toList_ofList] at hc
    rcases hhead c hc with rfl | rfl <;> decide
  have hsame : source.text ++ suffix = word ++ String.ofList (rest ++ suffix.toList) := by
    rw [← String.toList_inj]
    simp [htext]
  rw [hsame, hstop]
  exact hhead

theorem wordStop_list (element : DartType) (nullable : Bool) :
    wordStop (deserialize config (.list element nullable) depth position source).text =
      some '(' := by
  simp [wordStop, deserialize, Expression.text, isIdentifierRest, isIdentifierStart]

theorem wordStop_map (key value : DartType) (nullable : Bool) :
    wordStop (deserialize config (.map key value nullable) depth position source).text =
      some '(' := by
  simp [wordStop, deserialize, Expression.text, isIdentifierRest, isIdentifierStart]

theorem wordStop_model {name : String} (hname : isIdentifier name = true) :
    wordStop (deserialize config (.model name false) depth position source).text =
      some '.' := by
  have hhead : (callSuffix config source).toList.head? = some '.' := by simp [callSuffix]
  rw [deserialize_model_text, wordStop_append hname, hhead]
  intro c hc
  rw [hhead] at hc
  cases hc
  decide

theorem wordStop_nullable_model {name : String} (hconfig : config.names.AreIdentifiers)
    (hsource : IsSource config source) :
    ∀ c ∈ wordStop (deserialize config (.model name true) depth position source).text,
      c = '[' ∨ c = ' ' := by
  rw [deserialize_nullable_model_text]
  refine wordStop_source hconfig hsource ?_
  simp [guardSuffix]

theorem wordStop_scalar {name : Scalar} {nullable : Bool}
    (hconfig : config.names.AreIdentifiers) (hsource : IsSource config source)
    (hcasts : position.casts config = true) :
    ∀ c ∈ wordStop (deserialize config (.scalar name nullable) depth position source).text,
      c = '[' ∨ c = ' ' := by
  rw [deserialize_scalar_text hcasts]
  refine wordStop_source hconfig hsource ?_
  by_cases hname : name = .dynamic <;> simp [castSuffix, hname]

/-! ## Scalars and models -/

/-- The cast of a scalar tells its essence. -/
theorem essence_eq_of_castSuffix_eq {a b : Scalar} {m n : Bool}
    (h : castSuffix a m = castSuffix b n) : essence (.scalar a m) = essence (.scalar b n) := by
  by_cases ha : a = .dynamic <;> by_cases hb : b = .dynamic
  · rw [ha, hb]
    rfl
  · simp [castSuffix, ha, hb] at h
  · simp [castSuffix, ha, hb] at h
  · rw [castSuffix, if_neg ha, castSuffix, if_neg hb, String.append_right_inj] at h
    have htype := congrArg Signature.typeOf h
    rw [Signature.typeOf_text_scalar, Signature.typeOf_text_scalar] at htype
    rw [htype]

/-- Equal texts of two scalars tell the same essence. -/
theorem scalar_text_inj {a b : Scalar} {m n : Bool} (hcasts : position.casts config = true)
    (h : (deserialize config (.scalar a m) depth position source).text =
      (deserialize config (.scalar b n) depth position source).text) :
    essence (.scalar a m) = essence (.scalar b n) := by
  rw [deserialize_scalar_text hcasts, deserialize_scalar_text hcasts, String.append_right_inj] at h
  exact essence_eq_of_castSuffix_eq h

/-- A scalar and a model are told apart behind the first word, or behind the source. -/
theorem scalar_text_ne_model {name : Scalar} {model : String} {m n : Bool}
    (hmodel : isIdentifier model = true) (hconfig : config.names.AreIdentifiers)
    (hsource : IsSource config source) (hcasts : position.casts config = true) :
    (deserialize config (.scalar name m) depth position source).text ≠
      (deserialize config (.model model n) depth position source).text := by
  intro h
  cases n with
  | false =>
      have hstop := wordStop_scalar hconfig hsource hcasts '.' (h ▸ wordStop_model hmodel)
      simp at hstop
  | true =>
      rw [deserialize_scalar_text hcasts, deserialize_nullable_model_text,
        String.append_right_inj, ← String.toList_inj] at h
      by_cases hname : name = .dynamic <;> simp [castSuffix, guardSuffix, hname] at h

/-- Equal texts of two models tell the same model and nullability. -/
theorem model_text_inj {a b : String} {m n : Bool} (ha : isIdentifier a = true)
    (hb : isIdentifier b = true) (hconfig : config.names.AreIdentifiers)
    (hsource : IsSource config source)
    (h : (deserialize config (.model a m) depth position source).text =
      (deserialize config (.model b n) depth position source).text) : a = b ∧ m = n := by
  cases m <;> cases n
  · rw [deserialize_model_text, deserialize_model_text, String.append_left_inj] at h
    exact ⟨h, rfl⟩
  · have hstop := wordStop_nullable_model hconfig hsource '.' (h ▸ wordStop_model ha)
    simp at hstop
  · have hstop := wordStop_nullable_model hconfig hsource '.' (h ▸ wordStop_model hb)
    simp at hstop
  · rw [deserialize_nullable_model_text, deserialize_nullable_model_text,
      String.append_right_inj, String.append_right_inj, String.append_left_inj] at h
    exact ⟨h, rfl⟩

/-- Whether a text begins with a bracket tells whether its type is a collection. -/
theorem wordStop_eq_open_iff {type : DartType}
    (hnames : ∀ name ∈ type.modelNames, isIdentifier name = true)
    (hconfig : config.names.AreIdentifiers) (hsource : IsSource config source)
    (hcasts : position.casts config = true) :
    wordStop (deserialize config type depth position source).text = some '(' ↔
      type.children ≠ [] := by
  cases type with
  | scalar name nullable =>
      refine iff_of_false ?_ (by simp [DartType.children])
      intro hstop
      have h := wordStop_scalar hconfig hsource hcasts '(' hstop
      simp at h
  | list element nullable =>
      exact iff_of_true (wordStop_list element nullable) (by simp [DartType.children])
  | map key value nullable =>
      exact iff_of_true (wordStop_map key value nullable) (by simp [DartType.children])
  | model name nullable =>
      refine iff_of_false ?_ (by simp [DartType.children])
      intro hstop
      cases nullable with
      | false =>
          rw [wordStop_model (hnames name (by simp [DartType.modelNames]))] at hstop
          simp at hstop
      | true =>
          have h := wordStop_nullable_model hconfig hsource '(' hstop
          simp at h

/-- Equal texts belong to two collections or to none. -/
theorem children_ne_nil_iff_of_text_eq {left right : DartType}
    (hleft : ∀ name ∈ left.modelNames, isIdentifier name = true)
    (hright : ∀ name ∈ right.modelNames, isIdentifier name = true)
    (hconfig : config.names.AreIdentifiers) (hsource : IsSource config source)
    (hcasts : position.casts config = true)
    (h : (deserialize config left depth position source).text =
      (deserialize config right depth position source).text) :
    left.children ≠ [] ↔ right.children ≠ [] := by
  rw [← wordStop_eq_open_iff hleft hconfig hsource hcasts, h,
    wordStop_eq_open_iff hright hconfig hsource hcasts]

end Texts

/-! ## The essence in the text -/

/-- Equal texts tell the same essence. -/
theorem essence_eq_of_text_eq {config : Config} (hconfig : config.names.AreIdentifiers)
    {left right : DartType} (hleft : ∀ name ∈ left.modelNames, isIdentifier name = true)
    (hright : ∀ name ∈ right.modelNames, isIdentifier name = true) {source : Expression}
    (hsource : IsSource config source) {position : Position}
    (hcasts : position.casts config = true) {depth : Nat}
    (h : (deserialize config left depth position source).text =
      (deserialize config right depth position source).text) :
    essence left = essence right := by
  induction left generalizing right depth position source with
  | scalar name nullable =>
      have hchildren := children_ne_nil_iff_of_text_eq hleft hright hconfig hsource hcasts h
      cases right with
      | scalar name' nullable' => exact scalar_text_inj hcasts h
      | list element' nullable' => simp [DartType.children] at hchildren
      | map key' value' nullable' => simp [DartType.children] at hchildren
      | model name' nullable' =>
          have hname := hright name' (by simp [DartType.modelNames])
          exact absurd h (scalar_text_ne_model hname hconfig hsource hcasts)
  | list element nullable ih =>
      have hchildren := children_ne_nil_iff_of_text_eq hleft hright hconfig hsource hcasts h
      cases right with
      | scalar name' nullable' => simp [DartType.children] at hchildren
      | list element' nullable' =>
          rcases list_text_inj h with ⟨rfl, helement⟩
          have hparameter := isIdentifier_parameterName (show isIdentifier "e" by decide) depth
          have hright' : ∀ name ∈ element'.modelNames, isIdentifier name = true := hright
          have hessence := ih hleft hright' (.variable hparameter) rfl helement
          rw [essence, essence, hessence]
      | map key' value' nullable' => exact absurd h list_text_ne_map
      | model name' nullable' => simp [DartType.children] at hchildren
  | map key value nullable _ ih =>
      have hchildren := children_ne_nil_iff_of_text_eq hleft hright hconfig hsource hcasts h
      cases right with
      | scalar name' nullable' => simp [DartType.children] at hchildren
      | list element' nullable' => exact absurd h.symm list_text_ne_map
      | map key' value' nullable' =>
          rcases map_text_inj h with ⟨rfl, hvalue⟩
          have hparameter := isIdentifier_parameterName (show isIdentifier "value" by decide) depth
          rw [DartType.modelNames, List.forall_mem_append] at hleft hright
          have hessence := ih hleft.2 hright.2 (.variable hparameter) rfl hvalue
          rw [essence, essence, hessence]
      | model name' nullable' => simp [DartType.children] at hchildren
  | model name nullable =>
      have hchildren := children_ne_nil_iff_of_text_eq hleft hright hconfig hsource hcasts h
      cases right with
      | scalar name' nullable' =>
          have hname := hleft name (by simp [DartType.modelNames])
          exact absurd h.symm (scalar_text_ne_model hname hconfig hsource hcasts)
      | list element' nullable' => simp [DartType.children] at hchildren
      | map key' value' nullable' => simp [DartType.children] at hchildren
      | model name' nullable' =>
          have hname := hleft name (by simp [DartType.modelNames])
          have hname' := hright name' (by simp [DartType.modelNames])
          rcases model_text_inj hname hname' hconfig hsource h with ⟨rfl, rfl⟩
          rfl

/-- Wherever scalars are cast, two types have the same deserializer exactly if they
are equal apart from the keys of their maps and the null marks of their dynamic
levels. -/
theorem deserialize_text_eq_iff {config : Config} (hconfig : config.names.AreIdentifiers)
    {left right : DartType} (hleft : ∀ name ∈ left.modelNames, isIdentifier name = true)
    (hright : ∀ name ∈ right.modelNames, isIdentifier name = true) {source : Expression}
    (hsource : IsSource config source) {position : Position}
    (hposition : position = .element ∨ config.options.noImplicitCasts = true) (depth : Nat) :
    (deserialize config left depth position source).text =
        (deserialize config right depth position source).text ↔
      essence left = essence right := by
  have hcasts : position.casts config = true := by
    cases position with
    | field => simpa [Position.casts] using hposition
    | element => rfl
  constructor
  · exact essence_eq_of_text_eq hconfig hleft hright hsource hcasts
  · intro hessence
    rw [← deserialize_essence config left, ← deserialize_essence config right, hessence]

/-- A map of lists of models, read from the map of its class: the deserializer does not
tell the type of its keys, but it tells the null marks of the models. -/
theorem deserialize_text_eq_iff_rows :
    let config : Config := { options := { addKeyMapper := true, noImplicitCasts := true } }
    let source := mapAccess config ⟨"rows", "rows", "it's", "Rows", by decide, by decide⟩
    let byInt := DartType.map (.scalar .int true) (.list (.model "Row" true) true) false
    let byString := DartType.map (.scalar .string false) (.list (.model "Row" true) true) false
    let ofRows := DartType.map (.scalar .int true) (.list (.model "Row" false) true) false
    (deserialize config byInt 0 .field source).text =
        (deserialize config byString 0 .field source).text ∧
      (deserialize config byInt 0 .field source).text ≠
        (deserialize config ofRows 0 .field source).text := by
  intro config source byInt byString ofRows
  have hByInt : ∀ name ∈ byInt.modelNames, isIdentifier name = true := by decide
  have hByString : ∀ name ∈ byString.modelNames, isIdentifier name = true := by decide
  have hOfRows : ∀ name ∈ ofRows.modelNames, isIdentifier name = true := by decide
  have hsource : IsSource config source := .access _
  have hposition : Position.field = .element ∨ config.options.noImplicitCasts = true :=
    Or.inr rfl
  constructor
  · exact (deserialize_text_eq_iff Names.areIdentifiers_default hByInt hByString hsource
      hposition 0).mpr rfl
  · intro h
    have hessence := (deserialize_text_eq_iff Names.areIdentifiers_default hByInt hOfRows
      hsource hposition 0).mp h
    simp [byInt, ofRows, essence] at hessence

end Memberwise
