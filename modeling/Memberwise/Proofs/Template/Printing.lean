import Memberwise.Proofs.Dart.Interpolation
import Memberwise.Template.Description

/-!
# What a description prints

The description of an object is one literal.  Whatever dollar signs its names have, the literal is
read back to the name of the class and one entry for each field, and it interpolates nothing but
the fields.

Main definitions:

- {lit}`descriptionText`: the text that describes an object.

Main results:

- Theorem {lit}`readQuotedBody_descriptionPieces`: the literal is read piece by piece.
- Theorem {lit}`toStringMember_prints`: the member returns a literal that prints the description.
-/

namespace Memberwise

open Memberwise.Text Memberwise.Dart Memberwise.Layout Memberwise.Template

/-! ## Joined groups -/

/-- What is made of joined groups is joined from what is made of the groups. -/
theorem flatMap_intercalate {α β : Type} (f : α → List β) (separator : List α)
    (groups : List (List α)) :
    (separator.intercalate groups).flatMap f =
      (separator.flatMap f).intercalate (groups.map (List.flatMap f)) := by
  induction groups with
  | nil => rfl
  | cons group groups ih =>
      cases groups with
      | nil => simp
      | cons next groups =>
          rw [List.intercalate_cons_cons, List.flatMap_append, List.flatMap_append, ih,
            List.map_cons, List.map_cons, List.map_cons, List.intercalate_cons_cons]

/-! ## Reading a description -/

section Description

variable {className : String} {fields : List Field} {config : Config}

/-- A name can stand in a literal as plain text. -/
theorem avoids_unquotable {name : String} (h : isIdentifier name = true) :
    Avoids unquotable name.toList :=
  avoids_of_isIdentifier h (by decide)

/-- The pieces of a field are read if what follows cannot continue its name. -/
theorem readQuotedBody_fieldPieces (field : Field) {rest : List Char}
    (hrest : ∀ c ∈ rest.head?, isBareNameRest c = false) :
    readQuotedBody ((fieldPieces field).flatMap Piece.chars ++ rest) =
      ahead ((fieldPieces field).flatMap Piece.letters) (readQuotedBody rest) := by
  simp only [fieldPieces, List.flatMap_cons, List.flatMap_nil, List.append_nil, List.append_assoc]
  rw [readQuotedBody_plain (avoids_unquotable field.storageName_isIdentifier),
    readQuotedBody_plain (by decide), readQuotedBody_value field.storageName_isIdentifier hrest,
    ahead_ahead, ahead_ahead, List.append_assoc]

/-- The pieces of the fields are read in their order. -/
theorem readQuotedBody_intercalate (fields : List Field) {rest : List Char}
    (hrest : ∀ c ∈ rest.head?, isBareNameRest c = false) :
    readQuotedBody (([Piece.plain ", "].intercalate (fields.map fieldPieces)).flatMap Piece.chars
        ++ rest) =
      ahead (([Piece.plain ", "].intercalate (fields.map fieldPieces)).flatMap Piece.letters)
        (readQuotedBody rest) := by
  induction fields with
  | nil => simp
  | cons field fields ih =>
      cases fields with
      | nil => simpa using readQuotedBody_fieldPieces field hrest
      | cons next fields =>
          have hcomma : ∀ c ∈ ((Piece.plain ", ").chars ++ (([Piece.plain ", "].intercalate
              ((next :: fields).map fieldPieces)).flatMap Piece.chars ++ rest)).head?,
              isBareNameRest c = false := by
            intro c hc
            cases hc
            decide
          rw [List.map_cons, List.map_cons, List.intercalate_cons_cons, ← List.map_cons,
            List.append_assoc, List.flatMap_append, List.flatMap_append, List.flatMap_singleton,
            List.append_assoc, List.append_assoc, readQuotedBody_fieldPieces field hcomma,
            readQuotedBody_plain (by decide), ih, ahead_ahead, ahead_ahead]
          simp only [List.map_cons, List.flatMap_append,
            List.flatMap_singleton, List.append_assoc]

/-- The literal of a description is read piece by piece, up to its closing quote. -/
theorem readQuotedBody_descriptionPieces (hclass : isIdentifier className = true)
    (fields : List Field) (rest : List Char) :
    readQuotedBody ((descriptionPieces className fields).flatMap Piece.chars ++ '"' :: rest) =
      some ((descriptionPieces className fields).flatMap Piece.letters, rest) := by
  have hclosing : ∀ c ∈ ((Piece.plain "\x7d").chars ++ '"' :: rest).head?,
      isBareNameRest c = false := by
    intro c hc
    cases hc
    decide
  rw [descriptionPieces, List.cons_append, List.flatMap_cons, List.cons_append, List.flatMap_cons,
    List.flatMap_append, List.flatMap_singleton, List.append_assoc, List.append_assoc,
    List.append_assoc, readQuotedBody_plain (avoids_unquotable hclass),
    readQuotedBody_plain (by decide), readQuotedBody_intercalate fields hclosing,
    readQuotedBody_plain (by decide), readQuotedBody, ahead_ahead, ahead_ahead, ahead_ahead]
  simp [ahead]

/-! ## What is printed -/

/-- The text that describes an object whose fields have some values as text. -/
def descriptionText (className : String) (fields : List Field) (values : String → String) :
    String :=
  className ++ "\x7b"
    ++ ", ".intercalate
      (fields.map fun field => field.storageName ++ ": " ++ values field.storageName)
    ++ "\x7d"

/-- The pieces of a description print it. -/
theorem printed_descriptionPieces (className : String) (fields : List Field)
    (values : String → String) :
    printed values (descriptionPieces className fields) =
      (descriptionText className fields values).toList := by
  have hfield : ∀ field : Field, (fieldPieces field).flatMap (Piece.print values) =
      (field.storageName ++ ": " ++ values field.storageName).toList := by
    intro field
    simp [fieldPieces, Piece.print]
  simp [printed, descriptionPieces, descriptionText, flatMap_intercalate, Piece.print,
    String.toList_intercalate, hfield, Function.comp_def]

/-- The pieces of a description interpolate the fields in their order. -/
theorem filterMap_name?_descriptionPieces (className : String) (fields : List Field) :
    (descriptionPieces className fields).filterMap Piece.name? =
      fields.map Field.storageName := by
  have hjoined : ([Piece.plain ", "].intercalate (fields.map fieldPieces)).filterMap Piece.name? =
      fields.map Field.storageName := by
    induction fields with
    | nil => rfl
    | cons field fields ih =>
        cases fields with
        | nil => rfl
        | cons next fields =>
            rw [List.map_cons, List.map_cons, List.intercalate_cons_cons, ← List.map_cons,
              List.filterMap_append, ih]
            rfl
  rw [descriptionPieces, List.filterMap_append, List.filterMap_cons_none rfl,
    List.filterMap_cons_none rfl, hjoined]
  exact List.append_nil _

/-- The description returns a literal that is read back, whatever follows it.  What is read prints
the name of the class and the fields in their order, whatever values these have, and it
interpolates the fields and nothing else. -/
theorem toStringMember_prints (hclass : isIdentifier className = true) :
    ∃ literal pieces,
      (toStringMember className fields config).lines =
        [⟨0, "@override"⟩, ⟨0, "String " ++ config.names.toString ++ "() \x7b"⟩,
          ⟨1, "return " ++ literal ++ ";"⟩, ⟨0, "\x7d"⟩] ∧
      (∀ rest, readQuoted (literal.toList ++ rest) = some (pieces, rest)) ∧
      (∀ values, printed values pieces = (descriptionText className fields values).toList) ∧
      pieces.filterMap Piece.name? = fields.map Field.storageName := by
  let pieces := descriptionPieces className fields
  refine ⟨doubleQuoted pieces, pieces.flatMap Piece.letters, rfl, ?_, ?_, ?_⟩
  · intro rest
    have hread := readQuotedBody_descriptionPieces hclass fields rest
    rwa [doubleQuoted, String.toList_ofList, List.cons_append, List.append_assoc,
      List.singleton_append, readQuoted]
  · intro values
    rw [printed_letters, printed_descriptionPieces]
  · rw [filterMap_name?_letters, filterMap_name?_descriptionPieces]

/-- Dollar signs inside and at the ends of names, in front of braces, colons and commas. -/
theorem toStringMember_prints_prices :
    let fields : List Field :=
      [⟨"a$b", "a", "a", "int", by decide, by decide⟩, ⟨"c", "c", "c", "int", by decide, by decide⟩,
        ⟨"$", "d", "d", "int", by decide, by decide⟩]
    isIdentifier "X$" = true ∧
      ∃ literal pieces,
        (toStringMember "X$" fields {}).lines[2]? = some ⟨1, "return " ++ literal ++ ";"⟩ ∧
        readQuoted literal.toList = some (pieces, []) ∧
        printed (fun name => if name = "c" then "$a" else "1") pieces =
          "X$\x7ba$b: 1, c: $a, $: 1\x7d".toList ∧
        pieces.filterMap Piece.name? = ["a$b", "c", "$"] := by
  intro fields
  have hclass : isIdentifier "X$" = true := by decide
  obtain ⟨literal, pieces, hlines, hread, hprinted, hnames⟩ :=
    @toStringMember_prints "X$" fields {} hclass
  have hliteral := hread []
  rw [List.append_nil] at hliteral
  refine ⟨hclass, literal, pieces, by rw [hlines]; rfl, hliteral, ?_, hnames⟩
  rw [hprinted]
  decide +kernel

end Description

end Memberwise
