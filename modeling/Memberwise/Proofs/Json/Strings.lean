import Mathlib.Tactic.SplitIfs
import Memberwise.Json.Printer
import Memberwise.Proofs.Json.Delimiting
import Memberwise.Proofs.Json.Grammar

/-!
# Strings and their spellings

A string is read to the characters that its spelling stands for, whichever escapes are used.
A string that is skipped need not stand for anything.

Main results:

- Theorem {lit}`SpellsChar.readChars_append`: a spelled character is read in front of any others.
- Theorem {lit}`SpellsString.exists_readString`: a string is read to what it spells.
- Theorem {lit}`spellsString_printedString`: a string is spelled as it is printed.
- Theorem {lit}`IsString.exists_skipChars`: every string is skipped.
-/

namespace Memberwise.Json

/-! ## Escapes -/

/-- Four digits are read to the code unit that they spell. -/
theorem SpellsUnit.readQuad_append {code : Nat} {digits : List Char} (h : SpellsUnit code digits)
    (rest : List Char) : readQuad (digits ++ rest) = .ok (code, rest) := by
  cases h with
  | digits ha hb hc hd =>
      rename_i a b c d i j k l
      have hquad : hexQuad? a b c d = some (4096 * i + 256 * j + 16 * k + l) := by
        simp only [hexQuad?, ha, hb, hc, hd, Option.bind_eq_bind, Option.bind_some,
          Option.pure_def, Option.some.injEq]
        omega
      simp [readQuad, hquad]

/-- An escape of one letter stands for its character. -/
theorem shortEscape?_of_mem {letter c : Char} (h : (letter, c) ∈ shortEscapes) :
    letter ≠ 'u' ∧ shortEscape? letter = some c := by
  have hall : ∀ pair ∈ shortEscapes, pair.1 ≠ 'u' ∧ shortEscape? pair.1 = some pair.2 := by
    decide
  exact hall _ h

/-- No code unit of a character is half of a pair. -/
theorem not_half_toNat (c : Char) : isTrailing c.toNat = false ∧ isLeading c.toNat = false := by
  have hvalid : c.toNat < 0xD800 ∨ 0xDFFF < c.toNat ∧ c.toNat < 0x110000 := c.valid
  constructor
  · simp only [isTrailing, Bool.and_eq_false_iff, decide_eq_false_iff_not]
    omega
  · simp only [isLeading, Bool.and_eq_false_iff, decide_eq_false_iff_not]
    omega

/-- The halves of a character are a first and a second one, and stand for it together. -/
theorem pairedChar_halves {c : Char} (hc : 0x10000 ≤ c.toNat) :
    isLeading (0xD800 + (c.toNat - 0x10000) / 0x400) = true ∧
      isTrailing (0xD800 + (c.toNat - 0x10000) / 0x400) = false ∧
      isTrailing (0xDC00 + (c.toNat - 0x10000) % 0x400) = true ∧
      pairedChar (0xD800 + (c.toNat - 0x10000) / 0x400) (0xDC00 + (c.toNat - 0x10000) % 0x400) =
        c := by
  have hvalid : c.toNat < 0xD800 ∨ 0xDFFF < c.toNat ∧ c.toNat < 0x110000 := c.valid
  refine ⟨?_, ?_, ?_, ?_⟩
  · simp only [isLeading, Bool.and_eq_true, decide_eq_true_eq]
    omega
  · simp only [isTrailing, Bool.and_eq_false_iff, decide_eq_false_iff_not]
    omega
  · simp only [isTrailing, Bool.and_eq_true, decide_eq_true_eq]
    omega
  · have hcode : 0x10000 + (0xD800 + (c.toNat - 0x10000) / 0x400 - 0xD800) * 0x400 +
        (0xDC00 + (c.toNat - 0x10000) % 0x400 - 0xDC00) = c.toNat := by omega
    rw [pairedChar, hcode, Char.ofNat_toNat]

/-- The escapes of two halves are read to the character that they stand for together. -/
theorem readEscape_pair {leading trailing : Nat} {first second : List Char}
    (hfirst : SpellsUnit leading first) (hsecond : SpellsUnit trailing second)
    (hleading : isLeading leading = true) (hnot : isTrailing leading = false)
    (htrailing : isTrailing trailing = true) (rest : List Char) :
    readEscape ('u' :: (first ++ '\\' :: 'u' :: (second ++ rest))) =
      .ok (pairedChar leading trailing, rest) := by
  simp [readEscape, readTrailing, hfirst.readQuad_append, hsecond.readQuad_append, hnot, hleading,
    htrailing]

/-! ## Strings that are read -/

/-- A plain character is read as it stands. -/
theorem IsPlain.readChars_cons {c : Char} (h : IsPlain c) (rest : List Char) :
    readChars (c :: rest) = prepend c (readChars rest) := by
  obtain ⟨hquote, hbackslash, hcontrol⟩ := h
  rw [readChars, if_neg hquote, if_neg hbackslash, if_neg (by simp [hcontrol])]

/-- A character is read from whatever it is spelled as, in front of the characters behind it. -/
theorem SpellsChar.readChars_append {c : Char} {part : List Char} (h : SpellsChar c part)
    (rest : List Char) : readChars (part ++ rest) = prepend c (readChars rest) := by
  cases h with
  | plain hc => exact hc.readChars_cons rest
  | short hshort =>
      rename_i letter
      obtain ⟨hletter, hescape⟩ := shortEscape?_of_mem hshort
      have hread : readEscape (letter :: rest) = .ok (c, rest) := by
        rw [readEscape.eq_3 _ _ hletter, hescape]
      rw [List.cons_append, readChars_escape, List.singleton_append, hread, ok_bind]
  | unit hunit =>
      rename_i digits
      obtain ⟨htrailing, hleading⟩ := not_half_toNat c
      have hread : readEscape ('u' :: (digits ++ rest)) = .ok (c, rest) := by
        simp [readEscape, hunit.readQuad_append, htrailing, hleading, Char.ofNat_toNat]
      rw [List.cons_append, List.cons_append, readChars_escape, hread, ok_bind]
  | pair hc hfirst hsecond =>
      rename_i first second
      obtain ⟨hleading, hnot, htrailing, hpaired⟩ := pairedChar_halves hc
      have hread := readEscape_pair hfirst hsecond hleading hnot htrailing rest
      rw [hpaired] at hread
      rw [List.cons_append, List.cons_append, List.append_assoc, List.cons_append,
        List.cons_append, readChars_escape, hread, ok_bind]

/-- The characters of a string are read up to its closing quote. -/
theorem readChars_flatten_append {chars : List Char} {parts : List (List Char)}
    (h : List.Forall₂ SpellsChar chars parts) (rest : List Char) :
    readChars (parts.flatten ++ '"' :: rest) = .ok (chars, rest) := by
  induction h with
  | nil => exact readChars_quote rest
  | cons hpart _ ih =>
      rw [List.flatten_cons, List.append_assoc, hpart.readChars_append, ih]
      rfl

/-- Behind its opening quote, a string is read to what it spells. -/
theorem SpellsString.exists_readString {value : String} {text : List Char}
    (h : SpellsString value text) :
    ∃ tail, text = '"' :: tail ∧ ∀ rest, readString (tail ++ rest) = .ok (value, rest) := by
  obtain ⟨parts, hparts, rfl⟩ := h
  refine ⟨_, rfl, ?_⟩
  intro rest
  rw [readString, List.append_assoc, List.singleton_append, readChars_flatten_append hparts,
    ok_bind]
  dsimp only
  rw [String.ofList_toList]

/-! ## Strings that are printed -/

/-- A hexadecimal digit stands for its value. -/
theorem hexDigit?_hexDigit {n : Nat} (h : n < 16) : Text.hexDigit? (hexDigit n) = some n := by
  have hall : ∀ n : Fin 16, Text.hexDigit? (hexDigit n) = some n.val := by decide
  exact hall ⟨n, h⟩

/-- A printed character stands for the character. -/
theorem spellsChar_printedChar (c : Char) : SpellsChar c (printedChar c) := by
  unfold printedChar
  split_ifs with hquoted hbackspace hfeed hline hreturn htab hcontrol
  case pos => rcases hquoted with rfl | rfl <;> exact .short (by decide)
  case pos => exact hbackspace ▸ .short (by decide)
  case pos => exact hfeed ▸ .short (by decide)
  case pos => exact hline ▸ .short (by decide)
  case pos => exact hreturn ▸ .short (by decide)
  case pos => exact htab ▸ .short (by decide)
  case pos =>
    have hunit := SpellsUnit.digits (a := '0') (b := '0') (i := 0) (j := 0) rfl rfl
      (hexDigit?_hexDigit (n := c.toNat / 16) (by omega))
      (hexDigit?_hexDigit (n := c.toNat % 16) (by omega))
    have hcode : 4096 * 0 + 256 * 0 + 16 * (c.toNat / 16) + c.toNat % 16 = c.toNat := by omega
    rw [hcode] at hunit
    exact .unit hunit
  case neg =>
    refine .plain ⟨fun hc => hquoted (.inl hc), fun hc => hquoted (.inr hc), ?_⟩
    simpa [isControl] using hcontrol

/-- A printed string is a spelling of the string. -/
theorem spellsString_printedString (value : String) : SpellsString value (printedString value) := by
  refine ⟨value.toList.map printedChar, ?_, ?_⟩
  · rw [List.forall₂_map_right_iff, List.forall₂_same]
    intro c _
    exact spellsChar_printedChar c
  · rw [printedString, List.flatMap_def]

/-! ## Strings that are skipped -/

/-- A part of a string is skipped in front of the parts behind it. -/
theorem IsStringPart.skipChars_append {part : List Char} (h : IsStringPart part)
    (rest : List Char) : skipChars (part ++ rest) = skipChars rest := by
  cases h with
  | plain hc =>
      obtain ⟨hquote, hbackslash, hcontrol⟩ := hc
      rw [List.singleton_append, skipChars, if_neg hquote, if_neg hbackslash,
        if_neg (by simp [hcontrol])]
  | short hshort =>
      rename_i letter c
      obtain ⟨hletter, hescape⟩ := shortEscape?_of_mem hshort
      have hskip : skipEscape (letter :: rest) = .ok ((), rest) := by
        rw [skipEscape.eq_3 _ _ hletter, hescape]
      rw [List.cons_append, skipChars_escape, List.singleton_append, hskip, ok_bind]
  | unit hunit =>
      rename_i code digits
      have hskip : skipEscape ('u' :: (digits ++ rest)) = .ok ((), rest) := by
        rw [skipEscape, hunit.readQuad_append, ok_bind]
      rw [List.cons_append, List.cons_append, skipChars_escape, hskip, ok_bind]

/-- Behind its opening quote, a string is skipped up to its closing quote. -/
theorem IsString.exists_skipChars {text : List Char} (h : IsString text) :
    ∃ tail, text = '"' :: tail ∧ ∀ rest, skipChars (tail ++ rest) = .ok ((), rest) := by
  obtain ⟨parts, hparts, rfl⟩ := h
  refine ⟨_, rfl, ?_⟩
  intro rest
  rw [List.append_assoc, List.singleton_append]
  induction parts with
  | nil => exact skipChars_quote rest
  | cons part parts ih =>
      rw [List.flatten_cons, List.append_assoc, (hparts part (by simp)).skipChars_append]
      exact ih fun other hother => hparts other (by simp [hother])

end Memberwise.Json
