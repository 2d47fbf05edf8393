import Memberwise.Dart.Expression
import Memberwise.Proofs.Text.LineEnds

/-!
# What expressions are spelled with

The spelling of an expression is made of fixed parts, of names and of literals.  What is to
hold of the whole spelling has to be asked of the names and the literals only.

Main definitions:

- {lit}`Word`: a name or a literal.
- {lit}`Expression.words`: the words that an expression is spelled with.

Main results:

- Theorem {lit}`isOneLine_singleQuoted_iff`: a literal stands on one line unless its text has
  a carriage return.
- Theorem {lit}`isOneLine_doubleQuoted_iff`: a literal with interpolation stands on one line
  exactly if its pieces do.
- Theorem {lit}`isOneLine_text_iff`: an expression stands on one line exactly if its words do.
-/

namespace Memberwise.Dart

open Memberwise.Text

/-! ## Words -/

/-- A part of a spelling that is not fixed. -/
inductive Word where
  | name (text : String)
  | literal (text : String)
deriving DecidableEq, Repr

/-- The spelling of a word. -/
def Word.text : Word → String
  | name text => text
  | literal text => singleQuoted text

@[simp]
theorem Word.text_name (text : String) : (Word.name text).text = text :=
  rfl

@[simp]
theorem Word.text_literal (text : String) : (Word.literal text).text = singleQuoted text :=
  rfl

/-- The words that a type is spelled with. -/
def DartType.words (type : DartType) : List Word :=
  type.modelNames.map .name

/-- The words of a forwarded key mapper: the label and the variable. -/
def forwardedWords (keyMapper : Option String) : List Word :=
  keyMapper.toList.flatMap fun name => [.name name, .name name]

/-- The words that an expression is spelled with, in their order. -/
def Expression.words : Expression → List Word
  | reference name => [.name name]
  | literal text => [.literal text]
  | apply function argument => .name function :: argument.words
  | index map key => map.words ++ key.words
  | cast operand type => operand.words ++ type.words
  | parenthesized inner => inner.words
  | mapElements target _ element body => target.words ++ .name element :: body.words
  | mapValues target _ key value body =>
      target.words ++ .name key :: .name value :: .name key :: body.words
  | toMap target _ method keyMapper => target.words ++ .name method :: forwardedWords keyMapper
  | fromMap model method source keyMapper =>
      .name model :: .name method :: (source.words ++ forwardedWords keyMapper)
  | unlessNull subject body => subject.words ++ body.words

section Words

variable {P : Word → Prop}

/-- A cast to a type without user models adds no words. -/
theorem forall_words_cast {operand : Expression} {type : DartType}
    (hoperand : ∀ word ∈ operand.words, P word) (htype : type.modelNames = []) :
    ∀ word ∈ (Expression.cast operand type).words, P word := by
  simpa [Expression.words, DartType.words, htype] using hoperand

/-- The words of a list that is mapped are those of the list, the parameter and those of the
body. -/
theorem forall_words_mapElements {target body : Expression} {nullAware : Bool} {element : String}
    (htarget : ∀ word ∈ target.words, P word) (helement : P (.name element))
    (hbody : ∀ word ∈ body.words, P word) :
    ∀ word ∈ (Expression.mapElements target nullAware element body).words, P word := by
  intro word hword
  rcases List.mem_append.mp hword with hword | hword
  · exact htarget word hword
  · rcases List.mem_cons.mp hword with rfl | hword
    · exact helement
    · exact hbody word hword

/-- The words of a map that is mapped are those of the map, the parameters and those of the
body. -/
theorem forall_words_mapValues {target body : Expression} {nullAware : Bool} {key value : String}
    (htarget : ∀ word ∈ target.words, P word) (hkey : P (.name key)) (hvalue : P (.name value))
    (hbody : ∀ word ∈ body.words, P word) :
    ∀ word ∈ (Expression.mapValues target nullAware key value body).words, P word := by
  intro word hword
  simp only [Expression.words, List.mem_append, List.mem_cons] at hword
  rcases hword with hword | rfl | rfl | rfl | hword
  · exact htarget word hword
  · exact hkey
  · exact hvalue
  · exact hkey
  · exact hbody word hword

end Words

/-! ## Line ends -/

/-- Only the carriage return is written as a line end. -/
theorem isOneLine_escaped_iff {c : Char} : IsOneLine (escaped c) ↔ c ≠ '\r' := by
  unfold escaped
  split
  · rename_i h
    rcases h with rfl | rfl | rfl <;> decide
  · split
    · rename_i h
      subst h
      decide
    · rename_i hnewline
      simp [lineEnds, hnewline]

/-- A literal stands on one line unless its text has a carriage return. -/
theorem isOneLine_singleQuoted_iff {text : String} :
    IsOneLine (singleQuoted text).toList ↔ '\r' ∉ text.toList := by
  have hchars : ∀ chars : List Char, IsOneLine (chars.flatMap escaped) ↔ '\r' ∉ chars := by
    intro chars
    induction chars with
    | nil => simp
    | cons c chars ih =>
        rw [List.flatMap_cons, isOneLine_append, isOneLine_escaped_iff, ih, List.mem_cons,
          not_or, ne_comm]
  have hquote : '\'' ∉ lineEnds := by decide
  rw [singleQuoted, String.toList_ofList, singleQuotedChars, isOneLine_cons, isOneLine_append,
    hchars]
  simp [hquote]

/-- Plain text of a literal with interpolation stands on one line exactly if it has no line
end. -/
theorem isOneLine_plain_iff {text : String} :
    IsOneLine (Piece.plain text).chars ↔ IsOneLine text.toList := by
  have hdollar : '$' ∉ lineEnds := by decide
  have hchars : ∀ chars : List Char, IsOneLine (escapeDollars chars) ↔ IsOneLine chars := by
    intro chars
    induction chars with
    | nil => rfl
    | cons c chars ih =>
        rw [escapeDollars, List.flatMap_cons, ← escapeDollars, isOneLine_append,
          isOneLine_cons, ih]
        refine and_congr_left' ?_
        split
        · rename_i h
          subst h
          decide
        · simp
  exact hchars text.toList

/-- An interpolated variable stands on one line exactly if its name does. -/
theorem isOneLine_value_iff {name : String} :
    IsOneLine (Piece.value name).chars ↔ IsOneLine name.toList := by
  rw [Piece.chars]
  split <;> simp [lineEnds]

/-- A literal with interpolation stands on one line exactly if its pieces do. -/
theorem isOneLine_doubleQuoted_iff {pieces : List Piece} :
    IsOneLine (doubleQuoted pieces).toList ↔ ∀ piece ∈ pieces, IsOneLine piece.chars := by
  have hpieces : IsOneLine (pieces.flatMap Piece.chars) ↔
      ∀ piece ∈ pieces, IsOneLine piece.chars := by
    induction pieces with
    | nil => simp
    | cons piece pieces ih =>
        rw [List.flatMap_cons, isOneLine_append, List.forall_mem_cons, ih]
  rw [doubleQuoted, String.toList_ofList, isOneLine_cons, isOneLine_append, hpieces]
  simp [lineEnds]

/-- A type stands on one line exactly if its words do. -/
theorem isOneLine_typeText_iff {type : DartType} :
    IsOneLine type.text.toList ↔ ∀ word ∈ type.words, IsOneLine word.text.toList := by
  have hmark : ∀ nullable, IsOneLine (DartType.nullMark nullable).toList := by decide
  have hscalar : ∀ name : Scalar, IsOneLine name.name.toList := by
    intro name
    cases name <;> decide
  unfold DartType.words
  rw [List.forall_mem_map]
  induction type with
  | scalar name nullable => simp [DartType.text, DartType.modelNames, hmark, hscalar]
  | list element nullable ih =>
      simp [DartType.text, DartType.modelNames, hmark, ih, lineEnds]
  | map key value nullable ihKey ihValue =>
      simp [DartType.text, DartType.modelNames, or_imp, forall_and, hmark, ihKey, ihValue,
        lineEnds]
  | model name nullable => simp [DartType.text, DartType.modelNames, hmark]

/-- A key mapper is forwarded on one line exactly if its words stand on one. -/
theorem isOneLine_forwarded_iff {keyMapper : String} :
    IsOneLine (Expression.forwarded keyMapper).toList ↔
      ∀ word ∈ forwardedWords (some keyMapper), IsOneLine word.text.toList := by
  simp [Expression.forwarded, forwardedWords, lineEnds]

/-- An expression stands on one line exactly if its words do. -/
theorem isOneLine_text_iff {expression : Expression} :
    IsOneLine expression.text.toList ↔
      ∀ word ∈ expression.words, IsOneLine word.text.toList := by
  have hmark : ∀ nullAware, IsOneLine (Expression.accessMark nullAware).toList := by decide
  induction expression with
  | reference name => simp [Expression.text, Expression.words]
  | literal text => simp [Expression.text, Expression.words]
  | apply function argument ih =>
      simp [Expression.text, Expression.words, ih, lineEnds]
  | index map key ihMap ihKey =>
      simp [Expression.text, Expression.words, or_imp, forall_and, ihMap, ihKey, lineEnds]
  | cast operand type ih =>
      simp [Expression.text, Expression.words, or_imp, forall_and, ih,
        isOneLine_typeText_iff, lineEnds]
  | parenthesized inner ih => simp [Expression.text, Expression.words, ih, lineEnds]
  | mapElements target nullAware element body ihTarget ihBody =>
      simp [Expression.text, Expression.words, or_imp, forall_and, hmark,
        ihTarget, ihBody, lineEnds]
  | mapValues target nullAware key value body ihTarget ihBody =>
      simp [Expression.text, Expression.words, or_imp, forall_and, hmark,
        ihTarget, ihBody, lineEnds]
  | toMap target nullAware method keyMapper ih =>
      cases keyMapper <;>
        simp [Expression.text, Expression.words, or_imp, forall_and, hmark, ih,
          isOneLine_forwarded_iff, forwardedWords, lineEnds]
  | fromMap model method source keyMapper ih =>
      cases keyMapper <;>
        simp [Expression.text, Expression.words, or_imp, forall_and, ih,
          isOneLine_forwarded_iff, forwardedWords, lineEnds]
  | unlessNull subject body ihSubject ihBody =>
      simp [Expression.text, Expression.words, or_imp, forall_and, ihSubject, ihBody,
        lineEnds]

end Memberwise.Dart
