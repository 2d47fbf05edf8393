import Mathlib.Logic.Function.Basic
import Memberwise.Conversion

/-!
# Literals of map keys

A map key is any text, and it is written as a literal that ends itself.  A reader takes the
literal from the front of whatever follows it, meets no interpolation on the way, and comes back
to the key.

Main definitions:

- {lit}`Delimited`: what a reader of single-quoted literals comes to.
- {lit}`readDelimited`: the reader.

Main results:

- Theorem {lit}`readDelimited_append`: a literal is read back to the text that it was written
  for, whatever follows it.
- Theorem {lit}`literals_of_keys`: literals are read back, and different keys are written as
  different expressions.
-/

namespace Memberwise

namespace Dart

/-! ## Reading literals -/

/-- What a reader of single-quoted literals comes to. -/
inductive Delimited where
  /-- A literal that ends: the text that it denotes, and what follows its closing quote. -/
  | ended (text rest : List Char)
  /-- A dollar sign that no backslash precedes, where an interpolation starts. -/
  | interpolated
  /-- The end of the text inside the literal. -/
  | unfinished
  /-- No opening quote. -/
  | missing
deriving DecidableEq, Repr

/-- Puts a character in front of the text that a literal denotes. -/
def Delimited.cons (c : Char) : Delimited → Delimited
  | ended text rest => ended (c :: text) rest
  | other => other

/-- The character that a character behind a backslash stands for: a line feed has a letter, and
all others stand for themselves. -/
def behindBackslash (c : Char) : Char :=
  if c = 'n' then '\n' else c

/-- Reads a literal from behind its opening quote. -/
def readDelimitedBody : List Char → Delimited
  | [] => .unfinished
  | '\'' :: rest => .ended [] rest
  | '$' :: _ => .interpolated
  | ['\\'] => .unfinished
  | '\\' :: c :: rest => (readDelimitedBody rest).cons (behindBackslash c)
  | c :: rest => (readDelimitedBody rest).cons c

/-- Reads a literal. -/
def readDelimited : List Char → Delimited
  | '\'' :: rest => readDelimitedBody rest
  | _ => .missing

/-! ## Literals of texts -/

/-- What a character is written as is read back to that character, whatever follows. -/
theorem readDelimitedBody_escaped (c : Char) (rest : List Char) :
    readDelimitedBody (escaped c ++ rest) = (readDelimitedBody rest).cons c := by
  unfold escaped
  split
  · rename_i hspecial
    rcases hspecial with rfl | rfl | rfl <;> rfl
  · rename_i hspecial
    obtain ⟨hbackslash, hquote, hdollar⟩ : c ≠ '\\' ∧ c ≠ '\'' ∧ c ≠ '$' := by
      simpa only [not_or] using hspecial
    split
    · rename_i hnewline
      subst hnewline
      rfl
    · rw [List.singleton_append, readDelimitedBody.eq_6 _ _ hquote hdollar]
      · exact fun h _ => hbackslash h
      · exact fun _ _ h _ => hbackslash h

/-- The characters of a text are read back up to the closing quote, whatever follows it. -/
theorem readDelimitedBody_flatMap (text rest : List Char) :
    readDelimitedBody (text.flatMap escaped ++ '\'' :: rest) = .ended text rest := by
  induction text with
  | nil => rfl
  | cons c text ih =>
      rw [List.flatMap_cons, List.append_assoc, readDelimitedBody_escaped, ih]
      rfl

/-- The literal of a text is read back to the text, whatever follows the literal. -/
theorem readDelimited_append (text : String) (rest : List Char) :
    readDelimited ((singleQuoted text).toList ++ rest) = .ended text.toList rest := by
  rw [singleQuoted, String.toList_ofList, singleQuotedChars, List.cons_append, List.append_assoc]
  exact readDelimitedBody_flatMap text.toList rest

/-- Different texts have different literals. -/
theorem singleQuoted_injective : Function.Injective singleQuoted := by
  intro first second h
  have hread := readDelimited_append first []
  rw [h, readDelimited_append] at hread
  injection hread with htext
  exact (String.toList_inj.mp htext).symm

end Dart

open Memberwise.Dart

/-! ## Keys -/

/-- Different keys are written as different expressions, with or without a key mapper. -/
theorem keyExpression_text_injective (config : Config) :
    Function.Injective fun key => (keyExpression config key).text := by
  intro first second h
  dsimp only [keyExpression] at h
  split at h
  · simp only [Expression.text, String.append_left_inj, String.append_right_inj] at h
    exact singleQuoted_injective h
  · exact singleQuoted_injective h

/-- A literal is read back to the text that it was written for, whatever follows it: the reader
takes all of the literal and nothing else, and meets no interpolation.  Different texts thus have
different literals, and different keys are written as different expressions under every
configuration. -/
theorem literals_of_keys :
    (∀ (text : String) (rest : List Char),
        readDelimited ((singleQuoted text).toList ++ rest) = .ended text.toList rest) ∧
      Function.Injective singleQuoted ∧
      ∀ config, Function.Injective fun key => (keyExpression config key).text :=
  ⟨readDelimited_append, singleQuoted_injective, keyExpression_text_injective⟩

end Memberwise
