import Memberwise.Json.Fault

/-!
# Readers

A reader takes a value from the front of a text and leaves the rest.  It looks no
further than it must, so what follows a value never changes it.

Main results:

- Theorem {lit}`word_append`: a word is read off the front of any text.
-/

namespace Memberwise.Json

/-- Takes a value from the front of a text, or says why there is none. -/
abbrev Reader (α : Type) := List Char → Except Fault (α × List Char)

/-- Places the fault of a reader one step deeper in the document. -/
def below {α : Type} (segment : Segment) : Except Fault α → Except Fault α
  | .ok a => .ok a
  | .error fault => .error { fault with path := segment :: fault.path }

/-- A grammar violation noticed in front of what is left to read. -/
def failBefore {α : Type} (error : GrammarError) (rest : List Char) : Except Fault α :=
  .error (Fault.before (.grammar error) rest)

/-- A grammar violation in the next byte of what is left to read. -/
def failWithin {α : Type} (error : GrammarError) (rest : List Char) : Except Fault α :=
  .error (Fault.within (.grammar error) rest)

/-! ## Blanks and words -/

/-- The characters that may stand between the parts of a document. -/
def isBlank (c : Char) : Bool :=
  c == ' ' || c == '\n' || c == '\t' || c == '\r'

/-- Removes the leading blanks. -/
def skipBlanks (text : List Char) : List Char :=
  text.dropWhile isBlank

/-- Reads the rest of a word whose first character has been read. -/
def word : List Char → Reader Unit
  | [], text => .ok ((), text)
  | _ :: _, [] => failBefore .endInValue []
  | expected :: more, c :: rest =>
      if c = expected then word more rest else failWithin .expectedWord (c :: rest)

/-- A word is read off the front of any text. -/
theorem word_append (letters rest : List Char) :
    word letters (letters ++ rest) = .ok ((), rest) := by
  induction letters with
  | nil => rfl
  | cons c letters ih => simp [word, ih]

end Memberwise.Json
