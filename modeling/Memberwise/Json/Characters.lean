import Memberwise.Json.Reader
import Memberwise.Text.Hexadecimal

/-!
# Strings in documents

The characters of a string, read from behind its opening quote, and the same
string skipped over.  A string that is skipped is only checked for its form, so a
surrogate without its partner passes.

Main results:

- Theorem {lit}`length_readEscape_lt`: an escape takes something off the text.
-/

namespace Memberwise.Json

/-! ## Escapes -/

/-- The number that four hexadecimal digits spell. -/
def hexQuad? (a b c d : Char) : Option Nat := do
  return (((← Text.hexDigit? a) * 16 + (← Text.hexDigit? b)) * 16 + (← Text.hexDigit? c)) * 16
    + (← Text.hexDigit? d)

/-- Four bytes that spell no number. -/
def failInQuad {α : Type} (rest : List Char) : Except Fault α :=
  .error { Fault.before (.grammar .invalidEscape) rest with ahead := 4 }

/-- Reads four hexadecimal digits.  They are taken as four bytes at once, so a text
that ends before them is cut short whatever they are. -/
def readQuad : Reader Nat
  | a :: b :: c :: d :: rest =>
      match hexQuad? a b c d with
      | some code => .ok (code, rest)
      | none => failInQuad (a :: b :: c :: d :: rest)
  | rest =>
      if byteLength rest < 4 then failBefore .endInString [] else failInQuad rest

/-- The character that an escape of one letter stands for. -/
def shortEscape? (c : Char) : Option Char :=
  if c = '"' ∨ c = '\\' ∨ c = '/' then some c
  else if c = 'b' then some '\x08'
  else if c = 'f' then some '\x0c'
  else if c = 'n' then some '\n'
  else if c = 'r' then some '\r'
  else if c = 't' then some '\t'
  else none

/-- Whether a code unit is the first half of a pair. -/
def isLeading (code : Nat) : Bool :=
  0xD800 ≤ code && code ≤ 0xDBFF

/-- Whether a code unit is the second half of a pair. -/
def isTrailing (code : Nat) : Bool :=
  0xDC00 ≤ code && code ≤ 0xDFFF

/-- The character that two halves stand for. -/
def pairedChar (leading trailing : Nat) : Char :=
  Char.ofNat (0x10000 + (leading - 0xD800) * 0x400 + (trailing - 0xDC00))

/-- Reads the second half of a pair, which is escaped like the first. -/
def readTrailing (leading : Nat) : Reader Char
  | [] => failBefore .endInString []
  | '\\' :: [] => failBefore .endInString []
  | '\\' :: 'u' :: rest => do
      let (code, rest) ← readQuad rest
      if isTrailing code then .ok (pairedChar leading code, rest)
      else failBefore .loneSurrogate rest
  | '\\' :: rest => failWithin .endOfHexEscape rest
  | rest => failWithin .endOfHexEscape rest

/-- Reads the character that an escape stands for, from behind its backslash. -/
def readEscape : Reader Char
  | [] => failBefore .endInString []
  | 'u' :: rest => do
      let (code, rest) ← readQuad rest
      if isTrailing code then failBefore .loneSurrogate rest
      else if isLeading code then readTrailing code rest
      else .ok (Char.ofNat code, rest)
  | c :: rest =>
      match shortEscape? c with
      | some d => .ok (d, rest)
      | none => failWithin .invalidEscape (c :: rest)

/-- Skips an escape, from behind its backslash. -/
def skipEscape : Reader Unit
  | [] => failBefore .endInString []
  | 'u' :: rest => do
      let (_, rest) ← readQuad rest
      .ok ((), rest)
  | c :: rest =>
      match shortEscape? c with
      | some _ => .ok ((), rest)
      | none => failWithin .invalidEscape (c :: rest)

/-- Four digits take something off the text. -/
theorem length_readQuad_lt {text rest : List Char} {code : Nat}
    (h : readQuad text = .ok (code, rest)) : rest.length < text.length := by
  unfold readQuad at h
  split at h
  · split at h
    · cases h
      simp only [List.length_cons]
      omega
    · simp [failInQuad] at h
  · split at h <;> simp [failBefore, failInQuad] at h

/-- The second half of a pair takes something off the text. -/
theorem length_readTrailing_lt {leading : Nat} {text rest : List Char} {c : Char}
    (h : readTrailing leading text = .ok (c, rest)) : rest.length < text.length := by
  unfold readTrailing at h
  split at h <;> try simp [failBefore, failWithin] at h
  rename_i tail
  cases hquad : readQuad tail with
  | error fault => simp [hquad, bind, Except.bind] at h
  | ok found =>
      have hlt := length_readQuad_lt hquad
      simp only [hquad, bind, Except.bind] at h
      split at h
      · simp only [Except.ok.injEq, Prod.mk.injEq] at h
        simp only [← h.2, List.length_cons]
        omega
      · simp at h

/-- An escape takes something off the text. -/
theorem length_readEscape_lt {text rest : List Char} {c : Char}
    (h : readEscape text = .ok (c, rest)) : rest.length < text.length := by
  unfold readEscape at h
  split at h
  · simp [failBefore] at h
  · rename_i tail
    cases hquad : readQuad tail with
    | error fault => simp [hquad, bind, Except.bind] at h
    | ok found =>
        have hlt := length_readQuad_lt hquad
        simp only [hquad, bind, Except.bind] at h
        split at h
        · simp [failBefore] at h
        · split at h
          · have htrailing := length_readTrailing_lt h
            simp only [List.length_cons]
            omega
          · simp only [Except.ok.injEq, Prod.mk.injEq] at h
            simp only [← h.2, List.length_cons]
            omega
  · split at h
    · cases h
      simp
    · simp [failWithin] at h

/-- Skipping an escape takes something off the text. -/
theorem length_skipEscape_lt {text rest : List Char}
    (h : skipEscape text = .ok ((), rest)) : rest.length < text.length := by
  unfold skipEscape at h
  split at h
  · simp [failBefore] at h
  · rename_i tail
    cases hquad : readQuad tail with
    | error fault => simp [hquad, bind, Except.bind] at h
    | ok found =>
        have hlt := length_readQuad_lt hquad
        simp only [hquad, bind, Except.bind, Except.ok.injEq, Prod.mk.injEq] at h
        simp only [List.length_cons, ← h.2]
        omega
  · split at h
    · cases h
      simp
    · simp [failWithin] at h

/-! ## Strings -/

/-- Whether a character may not stand in a string as it is. -/
def isControl (c : Char) : Bool :=
  c.toNat < 0x20

/-- Puts a character in front of a string that has been read. -/
def prepend (c : Char) : Except Fault (List Char × List Char) →
    Except Fault (List Char × List Char)
  | .ok (chars, rest) => .ok (c :: chars, rest)
  | .error fault => .error fault

/-- Reads the characters of a string up to and including its closing quote. -/
def readChars (text : List Char) : Except Fault (List Char × List Char) :=
  match text with
  | [] => failBefore .endInString []
  | c :: rest =>
      if c = '"' then .ok ([], rest)
      else if c = '\\' then
        match hescape : readEscape rest with
        | .error fault => .error fault
        | .ok (d, more) =>
            have := length_readEscape_lt hescape
            prepend d (readChars more)
      else if isControl c then failWithin .controlCharacter (c :: rest)
      else prepend c (readChars rest)
termination_by text.length

/-- Skips the characters of a string up to and including its closing quote. -/
def skipChars (text : List Char) : Except Fault (Unit × List Char) :=
  match text with
  | [] => failBefore .endInString []
  | c :: rest =>
      if c = '"' then .ok ((), rest)
      else if c = '\\' then
        match hescape : skipEscape rest with
        | .error fault => .error fault
        | .ok ((), more) =>
            have := length_skipEscape_lt hescape
            skipChars more
      else if isControl c then failBefore .controlCharacter (c :: rest)
      else skipChars rest
termination_by text.length

/-- Reads a string from behind its opening quote. -/
def readString : Reader String := fun text => do
  let (chars, rest) ← readChars text
  .ok (String.ofList chars, rest)

end Memberwise.Json
