import Mathlib.Data.List.Infix
import Mathlib.Data.List.Nodup
import Memberwise.Proofs.Conversion.Names

/-!
# Closures of conversions

A conversion goes through the collections of a type from the outside to the inside, with one
closure for each.  Every closure stands in the body of the one before it, and its body converts
what its last parameter is bound to.

Main definitions:

- {lit}`Expression.closures`: the closures of an expression.
- {lit}`Nests`: whether the closures of an expression stand inside one another.
- {lit}`spineClosures`: the closures that follow the collections of a type.

Main results:

- Theorem {lit}`isInfix_text_of_mem_closures`: the closures of an expression are spelled out in
  it.
- Theorem {lit}`nodup_parameters`: no closure hides a parameter of another one.
- Theorem {lit}`followsSpine`: serializers and deserializers follow the collections of their type.
-/

namespace Memberwise

open Memberwise.Dart

/-! ## Closures of expressions -/

namespace Dart

/-- A closure. -/
inductive Closure where
  /-- The function that the elements of a list are passed to. -/
  | ofElement (element : String) (body : Expression)
  /-- The function that the entries of a map are passed to.  It keeps the key and computes the
  value. -/
  | ofEntry (key value : String) (body : Expression)
deriving DecidableEq, Repr

namespace Closure

/-- The parameters of a closure. -/
def parameters : Closure → List String
  | ofElement element _ => [element]
  | ofEntry key value _ => [key, value]

/-- The expression that a closure computes from its last parameter. -/
def body : Closure → Expression
  | ofElement _ body => body
  | ofEntry _ _ body => body

/-- The spelling of a closure. -/
def text : Closure → String
  | ofElement element body => "(" ++ element ++ ") => " ++ body.text
  | ofEntry key value body =>
      "(" ++ key ++ ", " ++ value ++ ") => MapEntry(" ++ key ++ ", " ++ body.text ++ ")"

end Closure

/-- All closures of an expression, those inside a closure right behind it. -/
def Expression.closures : Expression → List Closure
  | reference _ => []
  | literal _ => []
  | apply _ argument => argument.closures
  | index map key => map.closures ++ key.closures
  | cast operand _ => operand.closures
  | parenthesized inner => inner.closures
  | mapElements target _ element body =>
      target.closures ++ .ofElement element body :: body.closures
  | mapValues target _ key value body =>
      target.closures ++ .ofEntry key value body :: body.closures
  | toMap target _ _ _ => target.closures
  | fromMap _ _ source _ => source.closures
  | unlessNull subject body => subject.closures ++ body.closures

/-- The closures of an expression are spelled out in it. -/
theorem isInfix_text_of_mem_closures {expression : Expression} {closure : Closure}
    (h : closure ∈ expression.closures) : closure.text.toList <:+: expression.text.toList := by
  -- a part that spells out the closure is followed to its place in the whole
  have hpart : ∀ {text : String} (before : List Char) {part : String} (after : List Char),
      closure.text.toList <:+: part.toList → text.toList = before ++ part.toList ++ after →
        closure.text.toList <:+: text.toList := by
    intro text before part after hinfix htext
    rw [htext]
    exact hinfix.trans (List.infix_append _ _ _)
  induction expression with
  | reference name => simp [Expression.closures] at h
  | literal text => simp [Expression.closures] at h
  | apply function argument ih =>
      exact hpart (function.toList ++ ['(']) [')'] (ih h) (by simp [Expression.text])
  | index map key ihMap ihKey =>
      rcases List.mem_append.mp h with h | h
      · exact hpart [] ('[' :: (key.text.toList ++ [']'])) (ihMap h) (by simp [Expression.text])
      · exact hpart (map.text.toList ++ ['[']) [']'] (ihKey h) (by simp [Expression.text])
  | cast operand type ih =>
      exact hpart [] (" as ".toList ++ type.text.toList) (ih h) (by simp [Expression.text])
  | parenthesized inner ih =>
      exact hpart ['('] [')'] (ih h) (by simp [Expression.text])
  | mapElements target nullAware element body ihTarget ihBody =>
      let call := (Expression.accessMark nullAware).toList ++ "map(".toList
      let own := Closure.ofElement element body
      have htext : (Expression.mapElements target nullAware element body).text.toList =
          target.text.toList ++ call ++ own.text.toList ++ ").toList()".toList := by
        simp [Expression.text, Closure.text, call, own]
      rcases List.mem_append.mp h with h | h
      · exact hpart [] (call ++ own.text.toList ++ ").toList()".toList) (ihTarget h)
          (by simp [htext])
      · refine hpart (target.text.toList ++ call) ").toList()".toList ?_ htext
        rcases List.mem_cons.mp h with rfl | h
        · exact List.infix_rfl
        · exact hpart ('(' :: (element.toList ++ ") => ".toList)) [] (ihBody h)
            (by simp [own, Closure.text])
  | mapValues target nullAware key value body ihTarget ihBody =>
      let call := (Expression.accessMark nullAware).toList ++ "map(".toList
      let own := Closure.ofEntry key value body
      have htext : (Expression.mapValues target nullAware key value body).text.toList =
          target.text.toList ++ call ++ own.text.toList ++ [')'] := by
        simp [Expression.text, Closure.text, call, own]
      rcases List.mem_append.mp h with h | h
      · exact hpart [] (call ++ own.text.toList ++ [')']) (ihTarget h) (by simp [htext])
      · refine hpart (target.text.toList ++ call) [')'] ?_ htext
        rcases List.mem_cons.mp h with rfl | h
        · exact List.infix_rfl
        · let parameters := '(' :: (key.toList ++ ", ".toList ++ value.toList ++ ") => ".toList)
          exact hpart (parameters ++ "MapEntry(".toList ++ key.toList ++ ", ".toList) [')']
            (ihBody h) (by simp [own, Closure.text, parameters])
  | toMap target nullAware method keyMapper ih =>
      let call := Expression.accessMark nullAware ++ method ++ "(" ++
        (keyMapper.map Expression.forwarded).getD "" ++ ")"
      exact hpart [] call.toList (ih h) (by simp [Expression.text, call])
  | fromMap model method source keyMapper ih =>
      let forwarded := (keyMapper.map fun mapper => ", " ++ Expression.forwarded mapper).getD ""
      exact hpart (model.toList ++ '.' :: (method.toList ++ ['('])) (forwarded.toList ++ [')'])
        (ih h) (by simp [Expression.text, forwarded])
  | unlessNull subject body ihSubject ihBody =>
      rcases List.mem_append.mp h with h | h
      · exact hpart [] (" == null ? null : ".toList ++ body.text.toList) (ihSubject h)
          (by simp [Expression.text])
      · exact hpart (subject.text.toList ++ " == null ? null : ".toList) [] (ihBody h)
          (by simp [Expression.text])

/-- Whether an expression has some given closures in front and then others that stand inside one
another, the outermost one first.  An expression without these may repeat the given ones. -/
def Nests : List Closure → Expression → List Closure → Prop
  | given, expression, [] =>
      expression.closures = given ∨ expression.closures = given ++ given
  | given, expression, closure :: inner =>
      expression.closures = given ++ closure :: closure.body.closures ∧
        closure.text.toList <:+: expression.text.toList ∧ Nests [] closure.body inner

/-- Without given closures, those that stand inside one another are all that there are. -/
theorem Nests.closures_eq {expression : Expression} {closures : List Closure}
    (h : Nests [] expression closures) : expression.closures = closures := by
  induction closures generalizing expression with
  | nil => rcases h with h | h <;> exact h
  | cons closure inner ih => rw [h.1, ih h.2.2, List.nil_append]

/-- The given closures come first, and they are repeated only if there are no others. -/
theorem Nests.closures_eq_append {given closures : List Closure} {expression : Expression}
    (h : Nests given expression closures) :
    expression.closures = given ++ closures ∨
      closures = [] ∧ expression.closures = given ++ given := by
  cases closures with
  | nil =>
      rcases h with h | h
      · exact .inl (by rw [h, List.append_nil])
      · exact .inr ⟨rfl, h⟩
  | cons closure inner => exact .inl (by rw [h.1, h.2.2.closures_eq])

/-- The closure of the elements of a list is in front of those in its body. -/
theorem nests_mapElements {body : Expression} {inner : List Closure} (target : Expression)
    (hbody : Nests [] body inner) (nullAware : Bool) (element : String) :
    Nests target.closures (.mapElements target nullAware element body)
      (.ofElement element body :: inner) :=
  ⟨rfl, isInfix_text_of_mem_closures (by simp [Expression.closures]), hbody⟩

/-- The closure of the entries of a map is in front of those in its body. -/
theorem nests_mapValues {body : Expression} {inner : List Closure} (target : Expression)
    (hbody : Nests [] body inner) (nullAware : Bool) (key value : String) :
    Nests target.closures (.mapValues target nullAware key value body)
      (.ofEntry key value body :: inner) :=
  ⟨rfl, isInfix_text_of_mem_closures (by simp [Expression.closures]), hbody⟩

/-! ## Collections of a type -/

/-- A collection that a conversion goes through, with the type of what is converted in it. -/
inductive SpineLevel where
  | list (element : DartType)
  | map (value : DartType)
deriving DecidableEq, Repr

/-- The collections that a type consists of, from the outside to the inside, along the elements of
lists and the values of maps. -/
def DartType.spine : DartType → List SpineLevel
  | scalar _ _ => []
  | list element _ => .list element :: element.spine
  | map _ value _ => .map value :: value.spine
  | model _ _ => []

end Dart

namespace Dart.SpineLevel

/-- The closure of a collection at some depth, with the conversion of what its last parameter is
bound to as its body. -/
def closure (convert : DartType → Nat → Expression → Expression) (depth : Nat) :
    SpineLevel → Closure
  | list element =>
      let e := parameterName "e" depth
      .ofElement e (convert element (depth + 1) (.reference e))
  | map value =>
      let k := parameterName "key" depth
      let v := parameterName "value" depth
      .ofEntry k v (convert value (depth + 1) (.reference v))

end Dart.SpineLevel

/-! ## Closures that follow a type -/

/-- The closures that follow the collections of a type, starting at a depth. -/
def spineClosures (convert : DartType → Nat → Expression → Expression) (type : DartType)
    (depth : Nat) : List Closure :=
  type.spine.mapIdx fun level collection => collection.closure convert (depth + level)

section Spines

variable (convert : DartType → Nat → Expression → Expression)

/-- The closures inside a collection start one level deeper. -/
theorem mapIdx_closure_cons (collection : SpineLevel) (spine : List SpineLevel) (depth : Nat) :
    ((collection :: spine).mapIdx fun level collection =>
        collection.closure convert (depth + level)) =
      collection.closure convert depth ::
        spine.mapIdx fun level collection => collection.closure convert (depth + 1 + level) := by
  rw [List.mapIdx_cons]
  simp only [Nat.add_zero, Nat.add_assoc, Nat.add_comm 1]

/-- The closures that follow a list. -/
theorem spineClosures_list (element : DartType) (nullable : Bool) (depth : Nat) :
    spineClosures convert (.list element nullable) depth =
      (SpineLevel.list element).closure convert depth ::
        spineClosures convert element (depth + 1) :=
  mapIdx_closure_cons convert _ _ depth

/-- The closures that follow a map. -/
theorem spineClosures_map (key value : DartType) (nullable : Bool) (depth : Nat) :
    spineClosures convert (.map key value nullable) depth =
      (SpineLevel.map value).closure convert depth ::
        spineClosures convert value (depth + 1) :=
  mapIdx_closure_cons convert _ _ depth

/-- Every parameter of the closures that follow a type has one of three bases, and at least the
depth where the closures start. -/
theorem exists_of_mem_parameters {type : DartType} {depth : Nat} {name : String}
    (h : name ∈ (spineClosures convert type depth).flatMap Closure.parameters) :
    ∃ base ∈ closureBases, ∃ inner, depth ≤ inner ∧ name = parameterName base inner := by
  rcases List.mem_flatMap.mp h with ⟨closure, hclosure, hname⟩
  rcases List.mem_mapIdx.mp hclosure with ⟨level, _, rfl⟩
  revert hname
  cases type.spine[level] with
  | list element =>
      intro hname
      rw [List.mem_singleton.mp hname]
      exact ⟨"e", by decide, depth + level, by omega, rfl⟩
  | map value =>
      intro hname
      rcases List.mem_pair.mp hname with rfl | rfl
      · exact ⟨"key", by decide, depth + level, by omega, rfl⟩
      · exact ⟨"value", by decide, depth + level, by omega, rfl⟩

/-- The parameters of a closure are not those of closures that start deeper. -/
theorem disjoint_parameters {bases : List String} (hbases : bases ⊆ closureBases)
    (type : DartType) (depth : Nat) :
    (bases.map (parameterName · depth)).Disjoint
      ((spineClosures convert type (depth + 1)).flatMap Closure.parameters) := by
  intro name hown hinner
  rcases List.mem_map.mp hown with ⟨base, hbase, rfl⟩
  rcases exists_of_mem_parameters convert hinner with ⟨other, hother, inner, hinner, heq⟩
  have hdepth := ((parameterName_eq_iff (hbases hbase) hother).mp heq).2
  omega

/-- No closure that follows a type has a parameter of another one. -/
theorem nodup_parameters (type : DartType) (depth : Nat) :
    ((spineClosures convert type depth).flatMap Closure.parameters).Nodup := by
  induction type generalizing depth with
  | scalar name nullable => exact List.nodup_nil
  | list element nullable ih =>
      have hown : (["e"].map (parameterName · depth)).Nodup := List.nodup_singleton _
      rw [spineClosures_list, List.flatMap_cons]
      exact hown.append (ih (depth + 1)) (disjoint_parameters convert (by decide) element depth)
  | map key value nullable _ ih =>
      have hown : (["key", "value"].map (parameterName · depth)).Nodup := by
        have hne : parameterName "key" depth ≠ parameterName "value" depth := by
          rw [Ne, parameterName_eq_iff (by decide) (by decide)]
          simp
        simpa using hne
      rw [spineClosures_map, List.flatMap_cons]
      exact hown.append (ih (depth + 1)) (disjoint_parameters convert (by decide) value depth)
  | model name nullable => exact List.nodup_nil

end Spines

/-! ## Conversions -/

/-- Whether the closures of an expression, those of its source apart, are the ones that follow the
collections of a type, inside one another and without a common parameter. -/
structure FollowsSpine (convert : DartType → Nat → Expression → Expression) (type : DartType)
    (depth : Nat) (source expression : Expression) : Prop where
  /-- The source is written once, or twice if the type has no collections. -/
  closures_eq : expression.closures = source.closures ++ spineClosures convert type depth ∨
    spineClosures convert type depth = [] ∧
      expression.closures = source.closures ++ source.closures
  nests : Nests source.closures expression (spineClosures convert type depth)
  nodup : ((spineClosures convert type depth).flatMap Closure.parameters).Nodup
  nodup_closures : source.closures = [] → (expression.closures.flatMap Closure.parameters).Nodup

/-- Closures that follow a type and stand inside one another have no common parameter. -/
theorem followsSpine_of_nests {convert : DartType → Nat → Expression → Expression}
    {type : DartType} {depth : Nat} {source expression : Expression}
    (h : Nests source.closures expression (spineClosures convert type depth)) :
    FollowsSpine convert type depth source expression where
  closures_eq := h.closures_eq_append
  nests := h
  nodup := nodup_parameters convert type depth
  nodup_closures := by
    intro hsource
    rw [hsource] at h
    rw [h.closures_eq]
    exact nodup_parameters convert type depth

section Conversions

variable (config : Config)

/-- The closures of a serializer stand inside one another. -/
theorem nests_serialize (type : DartType) (depth : Nat) (source : Expression) :
    Nests source.closures (serialize config type depth source)
      (spineClosures (serialize config) type depth) := by
  induction type generalizing depth source with
  | scalar name nullable => exact .inl rfl
  | list element nullable ih =>
      rw [spineClosures_list]
      exact nests_mapElements source (ih (depth + 1) (.reference _)) nullable _
  | map key value nullable _ ih =>
      rw [spineClosures_map]
      exact nests_mapValues source (ih (depth + 1) (.reference _)) nullable _ _
  | model name nullable => exact .inl rfl

/-- The closures of a deserializer stand inside one another. -/
theorem nests_deserialize (type : DartType) (depth : Nat) (position : Position)
    (source : Expression) :
    Nests source.closures (deserialize config type depth position source)
      (spineClosures (deserialize config · · .element ·) type depth) := by
  induction type generalizing depth position source with
  | scalar name nullable =>
      rw [deserialize]
      split
      · exact .inl rfl
      · exact .inl rfl
  | list element nullable ih =>
      let e := parameterName "e" depth
      let target := Expression.parenthesized (.cast source (decodedList nullable))
      have hbody := ih (depth + 1) .element (.reference e)
      rw [spineClosures_list]
      exact nests_mapElements target hbody nullable e
  | map key value nullable _ ih =>
      let k := parameterName "key" depth
      let v := parameterName "value" depth
      let target := Expression.parenthesized (.cast source (decodedMap nullable))
      have hbody := ih (depth + 1) .element (.reference v)
      rw [spineClosures_map]
      exact nests_mapValues target hbody nullable k v
  | model name nullable =>
      rw [deserialize]
      split
      · exact .inr rfl
      · exact .inl rfl

/-- Apart from the closures of its source, a conversion has exactly one closure for each collection
of its type, the outermost one first and each inside the one before it.  The parameters of a
closure carry its depth, no two are called the same, and the body of a closure converts what its
last parameter is bound to. -/
theorem followsSpine (type : DartType) (depth : Nat) (position : Position)
    (source : Expression) :
    FollowsSpine (serialize config) type depth source (serialize config type depth source) ∧
      FollowsSpine (deserialize config · · .element ·) type depth source
        (deserialize config type depth position source) :=
  ⟨followsSpine_of_nests (nests_serialize config type depth source),
    followsSpine_of_nests (nests_deserialize config type depth position source)⟩

/-- Lists and maps in turns, one level below the outermost one, read from a map. -/
theorem followsSpine_grid :
    let type : DartType :=
      .list (.map (.scalar .string false) (.list (.model "Row" true) false) true) false
    let source : Expression := .index (.reference "map") (.literal "grid")
    (serialize {} type 1 source).closures = spineClosures (serialize {}) type 1 ∧
      ((deserialize {} type 1 .field source).closures.flatMap Closure.parameters).Nodup ∧
      (serialize {} type 1 source).closures.map Closure.parameters =
        [["e1"], ["key2", "value2"], ["e3"]] := by
  intro type source
  obtain ⟨hserialize, hdeserialize⟩ := followsSpine {} type 1 .field source
  refine ⟨?_, hdeserialize.nodup_closures rfl, by decide⟩
  rcases hserialize.closures_eq with h | ⟨hempty, -⟩
  · exact h
  · exact absurd hempty (by decide)

end Conversions

end Memberwise
