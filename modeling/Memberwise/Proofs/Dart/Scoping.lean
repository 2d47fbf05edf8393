import Mathlib.Data.List.Basic
import Memberwise.Dart.Expression
import Memberwise.Proofs.Text.Identifiers

/-!
# Scopes of names

A name that is read inside a method is that of the innermost closure around the place that
has a parameter of the name, else that of a parameter of the method, and else a member of the
object.

Main definitions:

- {lit}`Reading.referent`: what a name refers to where it is read.
- {lit}`Expression.readings`: the places where an expression reads names.
- {lit}`ReadsOneMember`: whether an expression reads one member and else parameters only.
- {lit}`interpolations`: the names that the rest of a literal interpolates.

Main results:

- Theorems {lit}`Reading.referent_innermost` and {lit}`Reading.referent_parameter`: where a name
  is found.
-/

namespace Memberwise.Dart

open Memberwise.Text

/-! ## Readings -/

/-- A place where a name is read, with the parameters of the closures around it, the
innermost one first. -/
structure Reading where
  name : String
  closures : List (List String)
deriving DecidableEq, Repr

/-- What a name refers to. -/
inductive Referent where
  /-- A parameter of a closure; the innermost closure has the level zero. -/
  | closure (level : Nat)
  /-- A parameter of the method. -/
  | parameter
  | member
deriving DecidableEq, Repr

namespace Reading

/-- What a name refers to where it is read, inside a method with some parameters. -/
def referent (parameters : List String) (reading : Reading) : Referent :=
  match reading.closures.findIdx? (·.contains reading.name) with
  | some level => .closure level
  | none => if reading.name ∈ parameters then .parameter else .member

/-- Outside of closures, a name that is no parameter is a member. -/
theorem referent_outermost {parameters : List String} {name : String} :
    (Reading.mk name []).referent parameters =
      if name ∈ parameters then .parameter else .member :=
  rfl

/-- A parameter of the innermost closure is found there. -/
theorem referent_innermost {name : String} {innermost : List String} (h : name ∈ innermost)
    (closures : List (List String)) (parameters : List String) :
    (Reading.mk name (innermost :: closures)).referent parameters = .closure 0 := by
  simp [referent, List.findIdx?_cons, h]

/-- A parameter of the method is found if no closure around the place hides it. -/
theorem referent_parameter {name : String} {parameters : List String} (h : name ∈ parameters)
    {closures : List (List String)} (hclosures : ∀ closure ∈ closures, name ∉ closure) :
    (Reading.mk name closures).referent parameters = .parameter := by
  have hnone : closures.findIdx? (·.contains name) = none := by
    rw [List.findIdx?_eq_none_iff]
    intro closure hclosure
    simpa using hclosures closure hclosure
  rw [referent, hnone]
  exact if_pos h

end Reading

/-- The places where an expression reads names, in their order.  Members that are called and
labels of arguments are no names that are read. -/
def Expression.readings (closures : List (List String)) : Expression → List Reading
  | reference name => [⟨name, closures⟩]
  | literal _ => []
  | apply function argument => ⟨function, closures⟩ :: argument.readings closures
  | index map key => map.readings closures ++ key.readings closures
  | cast operand _ => operand.readings closures
  | parenthesized inner => inner.readings closures
  | mapElements target _ element body =>
      target.readings closures ++ body.readings ([element] :: closures)
  | mapValues target _ key value body =>
      target.readings closures ++
        ⟨key, [key, value] :: closures⟩ :: body.readings ([key, value] :: closures)
  | toMap target _ _ keyMapper =>
      target.readings closures ++ keyMapper.toList.map (⟨·, closures⟩)
  | fromMap model _ source keyMapper =>
      ⟨model, closures⟩ :: (source.readings closures ++ keyMapper.toList.map (⟨·, closures⟩))
  | unlessNull subject body => subject.readings closures ++ body.readings closures

/-- Whether an expression in a method reads a member first, outside of all closures, and
nothing else but parameters: those of the closure around the place, and those of the method. -/
def ReadsOneMember (parameters : List String) (expression : Expression) (name : String) : Prop :=
  ∃ others, expression.readings [] = ⟨name, []⟩ :: others ∧
    (Reading.mk name []).referent parameters = .member ∧
    ∀ reading ∈ others, reading.referent parameters ∈ [.closure 0, .parameter]

/-! ## Interpolations -/

/-- Whether a character may continue a name that is interpolated without braces. -/
def isBareNameRest (c : Char) : Bool :=
  isIdentifierRest c && c != '$'

/-- The names that a double-quoted literal interpolates, given what follows its opening quote.
A backslash takes the next character out, and a name without braces goes on as far as it
can. -/
def interpolations : List Char → List String
  | [] => []
  | '"' :: _ => []
  | '\\' :: _ :: rest => interpolations rest
  | '$' :: '{' :: rest =>
      String.ofList (rest.takeWhile (· != '}')) :: interpolations (rest.dropWhile (· != '}'))
  | '$' :: rest =>
      String.ofList (rest.takeWhile isBareNameRest) ::
        interpolations (rest.dropWhile isBareNameRest)
  | _ :: rest => interpolations rest
termination_by chars => chars.length
decreasing_by
  all_goals
    have hshorter (p : Char → Bool) (chars : List Char) :
        (chars.dropWhile p).length ≤ chars.length :=
      (List.dropWhile_sublist p).length_le
    simp only [List.length_cons]
    grind

/-- A character that means nothing special in a literal interpolates nothing. -/
theorem interpolations_cons {c : Char} (hc : c ∉ ['"', '\\', '$']) (rest : List Char) :
    interpolations (c :: rest) = interpolations rest := by
  simp only [List.mem_cons, List.not_mem_nil, or_false, not_or] at hc
  obtain ⟨hquote, hbackslash, hdollar⟩ := hc
  exact interpolations.eq_6 c rest hquote (fun _ _ h _ => hbackslash h)
    (fun _ h _ => hdollar h) hdollar

end Memberwise.Dart
