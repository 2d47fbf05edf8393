import Memberwise.Proofs.Conversion.Closures
import Memberwise.Proofs.Dart.Scoping

/-!
# Sources of conversions

A conversion is written around the expression of the value that it converts, its source.  The
texts around the source are the same for all sources, and the source stands in front of all
closures, so that what it reads is read outside of them.  Only what reads a model that may be null
writes its source twice.

Main definitions:

- {lit}`Dart.SpellsClosures`: whether a text spells out closures that stand inside one another.
- {lit}`Dart.WritesOnce` and {lit}`Dart.WritesTwice`: how expressions are made from sources.

Main results:

- Theorems {lit}`Dart.WritesOnce.mapElements` and {lit}`Dart.WritesOnce.mapValues`: a closure is
  written behind the source.
- Theorems {lit}`writesOnce_deserialize` and {lit}`writesTwice_deserialize`: which deserializers
  write their source twice.
- Theorem {lit}`conversions_writeSource`: where conversions write their source.
-/

namespace Memberwise

namespace Dart

/-! ## Sources in expressions -/

/-- Whether a text spells out some closures that stand inside one another: the first of them is a
part of it, and the others are those in its body. -/
inductive SpellsClosures : String → List Closure → Prop where
  | none (text : String) : SpellsClosures text []
  | nested (before : String) (closure : Closure) (after : String) :
      SpellsClosures (before ++ closure.text ++ after) (closure :: closure.body.closures)

/-- A text spells out closures whatever is written behind it. -/
theorem SpellsClosures.append {text : String} {closures : List Closure}
    (h : SpellsClosures text closures) (rest : String) :
    SpellsClosures (text ++ rest) closures := by
  cases h with
  | none => exact .none _
  | nested before closure after =>
      rw [String.append_assoc]
      exact .nested before closure (after ++ rest)

/-- Whether expressions are made from sources by the same texts around one occurrence of the
source, with all closures that are not its own behind it.  What the source reads is read in the
scope of the whole expression. -/
structure WritesOnce (emit : Expression → Expression) (before after : String)
    (emitted : List Closure) : Prop where
  text_eq : ∀ source, (emit source).text = before ++ source.text ++ after
  closures_eq : ∀ source, (emit source).closures = source.closures ++ emitted
  behind : SpellsClosures after emitted
  readings_eq : ∀ scope, ∃ first last, ∀ source,
    (emit source).readings scope = first ++ source.readings scope ++ last

/-- Whether expressions are made from sources by the same texts between and behind two occurrences
of the source, without any closures that are not its own. -/
structure WritesTwice (emit : Expression → Expression) (between after : String) : Prop where
  text_eq : ∀ source, (emit source).text = source.text ++ between ++ source.text ++ after
  closures_eq : ∀ source, (emit source).closures = source.closures ++ source.closures
  readings_eq : ∀ scope, ∃ middle last, ∀ source,
    (emit source).readings scope =
      source.readings scope ++ middle ++ source.readings scope ++ last

/-- What writes its source once does not write it twice. -/
theorem WritesOnce.not_writesTwice {emit : Expression → Expression}
    {before after between rest : String} {emitted : List Closure}
    (honce : WritesOnce emit before after emitted) : ¬ WritesTwice emit between rest := by
  intro htwice
  -- one more character in the source is one more in the whole, or two
  have hlength : ∀ text : String,
      before.length + text.length + after.length =
        text.length + between.length + text.length + rest.length := by
    intro text
    have htext := (honce.text_eq (.reference text)).symm.trans (htwice.text_eq (.reference text))
    simpa [Expression.text] using congrArg String.length htext
  have hempty : before.length + 0 + after.length = 0 + between.length + 0 + rest.length :=
    hlength ""
  have hletter : before.length + 1 + after.length = 1 + between.length + 1 + rest.length :=
    hlength "x"
  omega

/-! ## Expressions around a source -/

namespace WritesOnce

/-- A source is written once in itself. -/
theorem self : WritesOnce (fun source => source) "" "" [] where
  text_eq source := by simp
  closures_eq source := (List.append_nil _).symm
  behind := .none ""
  readings_eq scope := ⟨[], [], fun source => by simp⟩

variable {emit : Expression → Expression} {before after : String} {emitted : List Closure}

/-- A type is written behind what is cast to it. -/
theorem cast (h : WritesOnce emit before after emitted) (type : DartType) :
    WritesOnce (fun source => .cast (emit source) type) before
      (after ++ (" as " ++ type.text)) emitted where
  text_eq source := by simp only [Expression.text, h.text_eq, String.append_assoc]
  closures_eq := h.closures_eq
  behind := h.behind.append _
  readings_eq := h.readings_eq

/-- Brackets are written around what they enclose. -/
theorem parenthesized (h : WritesOnce emit before after emitted) :
    WritesOnce (fun source => .parenthesized (emit source)) ("(" ++ before) (after ++ ")")
      emitted where
  text_eq source := by simp only [Expression.text, h.text_eq, String.append_assoc]
  closures_eq := h.closures_eq
  behind := h.behind.append _
  readings_eq := h.readings_eq

/-- The call of a method is written behind its target. -/
theorem toMap (h : WritesOnce emit before after emitted) (nullAware : Bool) (method : String)
    (keyMapper : Option String) :
    WritesOnce (fun source => .toMap (emit source) nullAware method keyMapper) before
      (after ++ (Expression.accessMark nullAware ++ method ++ "("
        ++ (keyMapper.map Expression.forwarded).getD "" ++ ")")) emitted where
  text_eq source := by simp only [Expression.text, h.text_eq, String.append_assoc]
  closures_eq := h.closures_eq
  behind := h.behind.append _
  readings_eq scope := by
    obtain ⟨first, last, hreadings⟩ := h.readings_eq scope
    refine ⟨first, last ++ keyMapper.toList.map (⟨·, scope⟩), fun source => ?_⟩
    simp only [Expression.readings, hreadings, List.append_assoc]

/-- The call of a constructor is written around its argument. -/
theorem fromMap (h : WritesOnce emit before after emitted) (model method : String)
    (keyMapper : Option String) :
    WritesOnce (fun source => .fromMap model method (emit source) keyMapper)
      (model ++ "." ++ method ++ "(" ++ before)
      (after ++ ((keyMapper.map fun mapper => ", " ++ Expression.forwarded mapper).getD ""
        ++ ")")) emitted where
  text_eq source := by simp only [Expression.text, h.text_eq, String.append_assoc]
  closures_eq := h.closures_eq
  behind := h.behind.append _
  readings_eq scope := by
    obtain ⟨first, last, hreadings⟩ := h.readings_eq scope
    refine ⟨⟨model, scope⟩ :: first, last ++ keyMapper.toList.map (⟨·, scope⟩), fun source => ?_⟩
    simp only [Expression.readings, hreadings, List.append_assoc, List.cons_append]

/-- The closure of the elements of a list is written behind a target without closures. -/
theorem mapElements (h : WritesOnce emit before after []) (nullAware : Bool) (element : String)
    (body : Expression) :
    WritesOnce (fun source => .mapElements (emit source) nullAware element body) before
      (after ++ Expression.accessMark nullAware ++ "map("
        ++ (Closure.ofElement element body).text ++ ").toList()")
      (.ofElement element body :: body.closures) where
  text_eq source := by
    have hhead : ("map((" : String) = "map(" ++ "(" := rfl
    simp only [Expression.text, Closure.text, h.text_eq, hhead, String.append_assoc]
  closures_eq source := by rw [Expression.closures, h.closures_eq, List.append_nil]
  behind := .nested _ (.ofElement element body) _
  readings_eq scope := by
    obtain ⟨first, last, hreadings⟩ := h.readings_eq scope
    refine ⟨first, last ++ body.readings ([element] :: scope), fun source => ?_⟩
    simp only [Expression.readings, hreadings, List.append_assoc]

/-- The closure of the entries of a map is written behind a target without closures. -/
theorem mapValues (h : WritesOnce emit before after []) (nullAware : Bool) (key value : String)
    (body : Expression) :
    WritesOnce (fun source => .mapValues (emit source) nullAware key value body) before
      (after ++ Expression.accessMark nullAware ++ "map("
        ++ (Closure.ofEntry key value body).text ++ ")")
      (.ofEntry key value body :: body.closures) where
  text_eq source := by
    have hhead : ("map((" : String) = "map(" ++ "(" := rfl
    have htail : ("))" : String) = ")" ++ ")" := rfl
    simp only [Expression.text, Closure.text, h.text_eq, hhead, htail, String.append_assoc]
  closures_eq source := by rw [Expression.closures, h.closures_eq, List.append_nil]
  behind := .nested _ (.ofEntry key value body) _
  readings_eq scope := by
    obtain ⟨first, last, hreadings⟩ := h.readings_eq scope
    let inner := [key, value] :: scope
    refine ⟨first, last ++ ⟨key, inner⟩ :: body.readings inner, fun source => ?_⟩
    simp only [Expression.readings, hreadings, List.append_assoc, inner]

/-- A guard writes the source once more, in front of a body without closures. -/
theorem unlessNull (h : WritesOnce emit before after []) :
    WritesTwice (fun source => .unlessNull source (emit source))
      (" == null ? null : " ++ before) after where
  text_eq source := by simp only [Expression.text, h.text_eq, String.append_assoc]
  closures_eq source := by rw [Expression.closures, h.closures_eq, List.append_nil]
  readings_eq scope := by
    obtain ⟨first, last, hreadings⟩ := h.readings_eq scope
    refine ⟨first, last, fun source => ?_⟩
    simp only [Expression.readings, hreadings, List.append_assoc]

end WritesOnce

end Dart

open Memberwise.Dart

/-! ## Conversions -/

section Conversions

variable (config : Config) (depth : Nat)

/-- A serializer begins with its source and writes it only there. -/
theorem writesOnce_serialize (type : DartType) :
    ∃ after emitted, WritesOnce (serialize config type depth) "" after emitted := by
  cases type with
  | scalar name nullable => exact ⟨_, _, .self⟩
  | list element nullable => exact ⟨_, _, WritesOnce.self.mapElements nullable _ _⟩
  | map key value nullable => exact ⟨_, _, WritesOnce.self.mapValues nullable _ _ _⟩
  | model name nullable => exact ⟨_, _, WritesOnce.self.toMap nullable _ _⟩

/-- A deserializer writes its source once unless its type is a model that may be null. -/
theorem writesOnce_deserialize {type : DartType} (h : ¬ ∃ model, type = .model model true)
    (position : Position) :
    ∃ before after emitted,
      WritesOnce (deserialize config type depth position) before after emitted := by
  cases type with
  | scalar name nullable =>
      by_cases hcasts : position.casts config ∧ name ≠ .dynamic
      · have hcast : deserialize config (.scalar name nullable) depth position =
            fun source => .cast source (.scalar name nullable) :=
          funext fun source => by rw [deserialize, if_pos hcasts]
        rw [hcast]
        exact ⟨_, _, _, WritesOnce.self.cast _⟩
      · have hplain : deserialize config (.scalar name nullable) depth position =
            fun source => source :=
          funext fun source => by rw [deserialize, if_neg hcasts]
        rw [hplain]
        exact ⟨_, _, _, .self⟩
  | list element nullable =>
      have htarget := (WritesOnce.self.cast (decodedList nullable)).parenthesized
      exact ⟨_, _, _, htarget.mapElements nullable _ _⟩
  | map key value nullable =>
      have htarget := (WritesOnce.self.cast (decodedMap nullable)).parenthesized
      exact ⟨_, _, _, htarget.mapValues nullable _ _ _⟩
  | model name nullable =>
      cases nullable with
      | true => exact absurd ⟨name, rfl⟩ h
      | false => exact ⟨_, _, _, (WritesOnce.self.cast (decodedMap false)).fromMap name _ _⟩

/-- The deserializer of a model that may be null writes its source twice: in the guard, and in the
call behind it. -/
theorem writesTwice_deserialize (model : String) (position : Position) :
    ∃ between after,
      WritesTwice (deserialize config (.model model true) depth position) between after :=
  ⟨_, _, ((WritesOnce.self.cast (decodedMap false)).fromMap model config.names.fromMap
    (forwardedMapper config)).unlessNull⟩

/-- A serializer is its source with a text behind it, and a deserializer is its source with texts
around it, or, exactly if its type is a model that may be null, twice its source with a text
between and a text behind.  These texts are the same for all sources.  All closures stand behind
the source and are the same for all sources, too, and there are none where it is written twice, so
what the source reads is never read inside of them. -/
theorem conversions_writeSource (type : DartType) :
    (∃ after emitted, WritesOnce (serialize config type depth) "" after emitted) ∧
      ∀ position,
        ((∃ before after emitted,
            WritesOnce (deserialize config type depth position) before after emitted) ↔
          ¬ ∃ model, type = .model model true) ∧
        ((∃ between after,
            WritesTwice (deserialize config type depth position) between after) ↔
          ∃ model, type = .model model true) := by
  refine ⟨writesOnce_serialize config depth type, fun position => ⟨⟨?_, ?_⟩, ⟨?_, ?_⟩⟩⟩
  · rintro ⟨before, after, emitted, honce⟩ ⟨model, rfl⟩
    obtain ⟨between, rest, htwice⟩ := writesTwice_deserialize config depth model position
    exact honce.not_writesTwice htwice
  · exact fun hmodel => writesOnce_deserialize config depth hmodel position
  · rintro ⟨between, rest, htwice⟩
    by_contra hmodel
    obtain ⟨before, after, emitted, honce⟩ :=
      writesOnce_deserialize config depth hmodel position
    exact honce.not_writesTwice htwice
  · rintro ⟨model, rfl⟩
    exact writesTwice_deserialize config depth model position

/-- What is read for a model that may be null is written in the guard and in the call. -/
example : (deserialize {} (.model "Row" true) 0 .field (.reference "row")).text =
    "row == null ? null : Row.fromMap(row as Map<String, dynamic>)" := by
  decide +kernel

end Conversions

end Memberwise
