import Memberwise.Proofs.Template.Frame
import Memberwise.Proofs.Template.Printing

/-!
# Skeletons of members

Every generated member is a skeleton with one fragment for each field at each of its places, in
the order of the fields.  The skeleton knows of the fields only whether there are any, and a
fragment knows of its own field only.

Main definitions:

- {lit}`FragmentKind`: what a field contributes to a member.
- {lit}`SkeletonPart`: fixed lines, or a place for fragments.
- {lit}`MemberKind.skeleton`: the skeletons of the generated members.

Main results:

- Theorem {lit}`member_eq_fill`: a member is its skeleton filled with the fragments of the fields.
- Theorem {lit}`isSkeletal`: members of joined and of reordered fields have joined and reordered
  fragments, and nothing else is changed.
-/

namespace Memberwise

open Memberwise.Dart Memberwise.Layout Memberwise.Template

/-! ## Fragments -/

/-- What a field contributes to a generated member. -/
inductive FragmentKind where
  /-- The entry of a conversion to a map. -/
  | entry
  /-- The argument of a conversion from a map. -/
  | argument
  /-- The parameter of an update. -/
  | parameter
  /-- The assignment of an update. -/
  | assignment
  /-- The name and the value in a description. -/
  | nameAndValue
deriving DecidableEq, Repr

/-- The fragment of a field. -/
def FragmentKind.fragment (config : Config) (field : Field) : FragmentKind → String
  | entry => (Entry.ofField config field).text
  | argument => (NamedArgument.ofField config field).text
  | parameter => (Parameter.ofField field).text
  | assignment => (Assignment.ofField field).text
  | nameAndValue => String.ofList ((fieldPieces field).flatMap Piece.chars)

/-- The fragments of some fields, one for each. -/
def fragments (config : Config) (fields : List Field) (kind : FragmentKind) : List String :=
  fields.map fun field => kind.fragment config field

/-! ## Skeletons -/

/-- A part of a skeleton. -/
inductive SkeletonPart where
  /-- Lines that stand as they are. -/
  | fixed (given : List Line)
  /-- A place for fragments, each on a line of its own. -/
  | eachLine (depth : Nat) (kind : FragmentKind)
  /-- A line with a place for fragments, which are joined. -/
  | oneLine (depth : Nat) (before : String) (kind : FragmentKind) (separator after : String)
deriving DecidableEq, Repr

namespace SkeletonPart

/-- The kind of the fragments that a part has a place for. -/
def kind? : SkeletonPart → Option FragmentKind
  | fixed _ => none
  | eachLine _ kind => some kind
  | oneLine _ _ kind _ _ => some kind

/-- The lines of a part with fragments at its place. -/
def fill (fragments : FragmentKind → List String) : SkeletonPart → List Line
  | fixed given => given
  | eachLine depth kind => (fragments kind).map (Line.mk depth)
  | oneLine depth before kind separator after =>
      [⟨depth, before ++ separator.intercalate (fragments kind) ++ after⟩]

end SkeletonPart

/-- The lines of a skeleton with fragments at its places. -/
def fill (skeleton : List SkeletonPart) (fragments : FragmentKind → List String) : List Line :=
  skeleton.flatMap (SkeletonPart.fill fragments)

/-! ## Members -/

/-- The generated members. -/
inductive MemberKind where
  | toMap
  | fromMap
  | apply
  | toString
deriving DecidableEq, Repr

namespace MemberKind

/-- The member of a class. -/
def member (className : String) (fields : List Field) (config : Config) : MemberKind → Member
  | toMap => toMapMember fields config
  | fromMap => fromMapMember className fields config
  | apply => applyMember className fields config
  | toString => toStringMember className fields config

/-- The name of a member. -/
def name (config : Config) : MemberKind → String
  | toMap => config.names.toMap
  | fromMap => config.names.fromMap
  | apply => config.names.apply
  | toString => config.names.toString

/-- The kinds of fragments that the fields contribute to a member. -/
def fragmentKinds : MemberKind → List FragmentKind
  | toMap => [.entry]
  | fromMap => [.argument]
  | apply => [.parameter, .assignment]
  | toString => [.nameAndValue]

/-- The skeleton of a member.  Of the fields it depends only on whether there are any. -/
def skeleton (className : String) (config : Config) (isEmpty : Bool) :
    MemberKind → List SkeletonPart
  | toMap =>
      let frame := toMapFrame isEmpty
      [.fixed (lines 0 (toMapHeader config) ++ frame.before), .eachLine 2 .entry,
        .fixed frame.after]
  | fromMap =>
      let frame := fromMapFrame (constructorCall className config.options) isEmpty
      [.fixed (lines 0 (fromMapHeader className config) ++ frame.before), .eachLine 2 .argument,
        .fixed frame.after]
  | apply =>
      let head := className ++ " " ++ config.names.apply
      let tail := [⟨1, "return this;"⟩, ⟨0, "\x7d"⟩]
      if isEmpty then [.fixed (⟨0, head ++ "() \x7b"⟩ :: tail)]
      else
        [.fixed [⟨0, head ++ "(\x7b"⟩], .eachLine 1 .parameter, .fixed [⟨0, "\x7d) \x7b"⟩],
          .eachLine 1 .assignment, .fixed tail]
  | toString =>
      let opening := String.ofList (escapeDollars className.toList) ++ "\x7b"
      [.fixed [⟨0, "@override"⟩, ⟨0, "String " ++ config.names.toString ++ "() \x7b"⟩],
        .oneLine 1 ("return \"" ++ opening) .nameAndValue ", " "\x7d\";", .fixed [⟨0, "\x7d"⟩]]

end MemberKind

section Members

variable (className : String) (fields : List Field) (config : Config)

/-- A frame is filled with fragments on lines of their own. -/
theorem fill_frame (header : List Line) (frame : Frame) (kind : FragmentKind)
    (fragments : FragmentKind → List String) :
    fill [.fixed (header ++ frame.before), .eachLine 2 kind, .fixed frame.after] fragments =
      header ++ frame.around (fragments kind) := by
  simp [fill, SkeletonPart.fill, Frame.around]

/-- The fragments of the fields as steps that write a line each. -/
theorem map_line_fragments (kind : FragmentKind) :
    (fields.map fun field => Step.line (kind.fragment config field)) =
      (fragments config fields kind).map Step.line := by
  rw [fragments, List.map_map]
  rfl

/-- The lines of an update are those around its parameters and its assignments. -/
theorem lines_applySteps :
    lines 0 (applySteps className fields config) =
      fill (MemberKind.apply.skeleton className config fields.isEmpty)
        (fragments config fields) := by
  cases fields with
  | nil => rfl
  | cons field others =>
      have hparameters := map_line_fragments (field :: others) config .parameter
      have hassignments := map_line_fragments (field :: others) config .assignment
      simp only [FragmentKind.fragment] at hparameters hassignments
      rw [applySteps, applyBody, hparameters, hassignments, List.cons_append, List.cons_append,
        List.append_assoc, List.cons_append, lines, Step.next, lines_map_line, lines, Step.next,
        lines_map_line]
      · simp [fill, SkeletonPart.fill, MemberKind.skeleton, lines, Step.write, Step.next]
      · simp

/-- The statement of a description is made of the class and the joined fragments of the fields. -/
theorem statement_descriptionPieces :
    "return " ++ doubleQuoted (descriptionPieces className fields) ++ ";" =
      "return \"" ++ (String.ofList (escapeDollars className.toList) ++ "\x7b") ++
        ", ".intercalate (fragments config fields .nameAndValue) ++ "\x7d\";" := by
  have hfragments : ((fields.map fieldPieces).map (List.flatMap Piece.chars)) =
      (fragments config fields .nameAndValue).map String.toList := by
    simp [fragments, FragmentKind.fragment]
  have hopening : escapeDollars ['\x7b'] = ['\x7b'] := rfl
  have hclosing : escapeDollars ['\x7d'] = ['\x7d'] := rfl
  have hcomma : escapeDollars [',', ' '] = [',', ' '] := rfl
  refine String.toList_inj.mp ?_
  rw [doubleQuoted, descriptionPieces, List.flatMap_append, List.flatMap_cons, List.flatMap_cons,
    flatMap_intercalate, hfragments]
  simp [Piece.chars, String.toList_intercalate, hopening, hclosing, hcomma]

/-- A member is its skeleton filled with the fragments of the fields. -/
theorem member_eq_fill (kind : MemberKind) :
    kind.member className fields config =
      ⟨kind.name config,
        fill (kind.skeleton className config fields.isEmpty) (fragments config fields)⟩ := by
  cases kind with
  | toMap =>
      change Member.mk _ _ = _
      rw [lines_toMapSteps, MemberKind.skeleton, fill_frame]
      rfl
  | fromMap =>
      change Member.mk _ _ = _
      rw [lines_fromMapSteps, MemberKind.skeleton, fill_frame]
      rfl
  | apply =>
      change Member.mk _ _ = _
      rw [lines_applySteps]
      rfl
  | toString =>
      change Member.mk _ _ = _
      rw [toStringSteps, statement_descriptionPieces className fields config]
      rfl

/-! ## Joined and reordered fields -/

/-- The fragments of joined fields are joined. -/
theorem fragments_append (first second : List Field) :
    fragments config (first ++ second) =
      fun kind => fragments config first kind ++ fragments config second kind := by
  funext kind
  exact List.map_append

/-- Whether a member of a class is made of its fields by a skeleton: there is one for all
non-empty lists of fields, and a field adds one fragment of its own at each place. -/
structure IsSkeletal (kind : MemberKind) (className : String) (config : Config) : Prop where
  /-- The skeleton knows of the fields only whether there are any. -/
  filled : ∀ fields, kind.member className fields config =
    ⟨kind.name config,
      fill (kind.skeleton className config fields.isEmpty) (fragments config fields)⟩
  /-- The places are for the kinds of fragments of the member. -/
  places : (kind.skeleton className config false).filterMap SkeletonPart.kind? =
    kind.fragmentKinds
  /-- The fields keep their places, as often as they occur. -/
  inPlace : ∀ (fields : List Field) (place : FragmentKind) (i : Nat),
    (fragments config fields place)[i]? = fields[i]?.map (place.fragment config)
  joined : ∀ first second : List Field, first ≠ [] → second ≠ [] →
    kind.member className (first ++ second) config =
      ⟨kind.name config, fill (kind.skeleton className config false) fun place =>
        fragments config first place ++ fragments config second place⟩
  permuted : ∀ fields reordered : List Field, fields.Perm reordered →
    kind.member className reordered config =
        ⟨kind.name config,
          fill (kind.skeleton className config fields.isEmpty) (fragments config reordered)⟩ ∧
      ∀ place, (fragments config fields place).Perm (fragments config reordered place)

/-- Every member is made of the fields by a skeleton.  Joined fields have the fragments of the
first fields and then those of the others, and the fragments of reordered fields are
reordered. -/
theorem isSkeletal (kind : MemberKind) : IsSkeletal kind className config where
  filled fields := member_eq_fill className fields config kind
  places := by cases kind <;> rfl
  inPlace fields place i := by
    rw [fragments, List.getElem?_map]
  joined first second hfirst _ := by
    have hne : (first ++ second).isEmpty = false := by simp [hfirst]
    rw [member_eq_fill, hne, fragments_append]
  permuted fields reordered hperm := by
    have hempty : reordered.isEmpty = fields.isEmpty := hperm.isEmpty_eq.symm
    refine ⟨?_, fun place => hperm.map _⟩
    rw [member_eq_fill, hempty]

/-- A field that is given twice is a parameter twice and is assigned twice. -/
theorem isSkeletal_twice :
    let field : Field := ⟨"_size", "size", "size", "int", by decide, by decide⟩
    [field] ≠ [] ∧
      (MemberKind.apply.member "Box" ([field] ++ [field]) {}).lines =
        [⟨0, "Box apply(\x7b"⟩, ⟨1, "int? size,"⟩, ⟨1, "int? size,"⟩, ⟨0, "\x7d) \x7b"⟩,
          ⟨1, "if (size != null) this._size = size;"⟩,
          ⟨1, "if (size != null) this._size = size;"⟩, ⟨1, "return this;"⟩, ⟨0, "\x7d"⟩] := by
  intro field
  have hfield : [field] ≠ [] := List.cons_ne_nil field []
  refine ⟨hfield, ?_⟩
  rw [(isSkeletal "Box" {} .apply).joined [field] [field] hfield hfield]
  decide +kernel

end Members

end Memberwise
