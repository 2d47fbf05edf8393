import Mathlib.Computability.RegularExpressions
import Memberwise.Text.Identifier

/-!
# The pattern of identifiers

Which texts are identifiers, as a regular expression: one letter, underscore or dollar sign, and any
number of these and of digits behind it.

Main definitions:

- {lit}`oneOf`: the expression for one of some characters.
- {lit}`identifierPattern`: the expression for identifiers.

Main results:

- Theorems {lit}`mem_matches'_oneOf` and {lit}`mem_matches'_star_oneOf`: what classes of characters
  and repetitions of them match.
- Theorem {lit}`isIdentifier_iff_mem_matches'`: identifiers are the texts that match as a whole.
-/

namespace Memberwise.Text

/-! ## Classes of characters -/

/-- The characters from one to another, by their code points. -/
def charactersFrom (first last : Char) : List Char :=
  (List.range' first.toNat (last.toNat + 1 - first.toNat)).map Char.ofNat

/-- The expression for one of some characters. -/
def oneOf (characters : List Char) : RegularExpression Char :=
  (characters.map RegularExpression.char).sum

/-- A class matches its characters. -/
theorem mem_matches'_oneOf {characters text : List Char} :
    text ∈ (oneOf characters).matches' ↔ ∃ c ∈ characters, text = [c] := by
  induction characters with
  | nil =>
      constructor
      · intro h
        exact absurd h (Language.notMem_zero text)
      · rintro ⟨c, hc, -⟩
        simp at hc
  | cons first characters ih =>
      have hclass : (oneOf (first :: characters)).matches' =
          {[first]} + (oneOf characters).matches' := by
        rw [oneOf, List.map_cons, List.sum_cons, RegularExpression.matches'_add,
          RegularExpression.matches'_char, oneOf]
      rw [hclass, Language.mem_add, ih]
      constructor
      · rintro (h | ⟨c, hc, rfl⟩)
        · exact ⟨first, by simp, h⟩
        · exact ⟨c, by simp [hc], rfl⟩
      · rintro ⟨c, hc, rfl⟩
        rcases List.mem_cons.mp hc with rfl | hc
        · exact Or.inl rfl
        · exact Or.inr ⟨c, hc, rfl⟩

/-- A repeated class matches the texts that consist of its characters. -/
theorem mem_matches'_star_oneOf {characters text : List Char} :
    text ∈ (oneOf characters).star.matches' ↔ ∀ c ∈ text, c ∈ characters := by
  rw [RegularExpression.matches'_star, Language.mem_kstar]
  constructor
  · rintro ⟨pieces, rfl, hpieces⟩ c hc
    rcases List.mem_flatten.mp hc with ⟨piece, hpiece, hc⟩
    rcases mem_matches'_oneOf.mp (hpieces piece hpiece) with ⟨d, hd, rfl⟩
    rw [List.mem_singleton.mp hc]
    exact hd
  · intro h
    refine ⟨text.map fun c => [c], ?_, ?_⟩
    · rw [← List.flatMap_def, List.flatMap_singleton']
    · intro piece hpiece
      rcases List.mem_map.mp hpiece with ⟨c, hc, rfl⟩
      exact mem_matches'_oneOf.mpr ⟨c, h c hc, rfl⟩

/-! ## Identifiers -/

/-- The letters from A to Z, large and small. -/
def letters : List Char :=
  charactersFrom 'A' 'Z' ++ charactersFrom 'a' 'z'

/-- The digits from 0 to 9. -/
def digits : List Char :=
  charactersFrom '0' '9'

/-- The expression for identifiers. -/
def identifierPattern : RegularExpression Char :=
  oneOf (letters ++ ['_', '$']) * (oneOf (letters ++ digits ++ ['_', '$'])).star

/-- A range of characters holds those with a code point between its ends. -/
theorem mem_charactersFrom {first last c : Char} (hlast : last.toNat < 0xD800) :
    c ∈ charactersFrom first last ↔ first.toNat ≤ c.toNat ∧ c.toNat ≤ last.toNat := by
  simp only [charactersFrom, List.mem_map, List.mem_range'_1]
  constructor
  · rintro ⟨code, hcode, rfl⟩
    have hvalid : code.isValidChar := Or.inl (by omega)
    have hcode : (Char.ofNat code).toNat = code := by
      rw [Char.ofNat, dif_pos hvalid]
      rfl
    omega
  · intro h
    exact ⟨c.toNat, by omega, Char.ofNat_toNat c⟩

/-- The letters are those of the alphabet. -/
theorem mem_letters {c : Char} : c ∈ letters ↔ c.isAlpha = true := by
  have hupper : c.isUpper = true ↔ 'A'.toNat ≤ c.toNat ∧ c.toNat ≤ 'Z'.toNat :=
    decide_eq_true_iff
  have hlower : c.isLower = true ↔ 'a'.toNat ≤ c.toNat ∧ c.toNat ≤ 'z'.toNat :=
    (Bool.and_eq_true_iff ..).trans (and_congr decide_eq_true_iff decide_eq_true_iff)
  have halpha : c.isAlpha = true ↔ c.isUpper = true ∨ c.isLower = true :=
    Bool.or_eq_true_iff ..
  rw [letters, List.mem_append, mem_charactersFrom (by decide), mem_charactersFrom (by decide),
    halpha, hupper, hlower]

/-- The digits are the decimal ones. -/
theorem mem_digits {c : Char} : c ∈ digits ↔ c.isDigit = true := by
  have hdigit : c.isDigit = true ↔ '0'.toNat ≤ c.toNat ∧ c.toNat ≤ '9'.toNat :=
    (Bool.and_eq_true_iff ..).trans (and_congr decide_eq_true_iff decide_eq_true_iff)
  rw [digits, mem_charactersFrom (by decide), hdigit]

/-- The characters that may begin an identifier. -/
theorem mem_starts {c : Char} : c ∈ letters ++ ['_', '$'] ↔ isIdentifierStart c = true := by
  simp [isIdentifierStart, mem_letters, or_assoc]

/-- The characters that may continue an identifier. -/
theorem mem_continuations {c : Char} :
    c ∈ letters ++ digits ++ ['_', '$'] ↔ isIdentifierRest c = true := by
  simp only [isIdentifierRest, isIdentifierStart, List.mem_append, List.mem_cons,
    List.not_mem_nil, or_false, mem_letters, mem_digits, Bool.or_eq_true, beq_iff_eq]
  tauto

/-- A text is an identifier exactly if the whole of it matches the pattern. -/
theorem isIdentifier_iff_mem_matches' {name : String} :
    isIdentifier name = true ↔ name.toList ∈ identifierPattern.matches' := by
  rw [identifierPattern, RegularExpression.matches'_mul, Language.mem_mul, isIdentifier]
  simp only [mem_matches'_oneOf, mem_matches'_star_oneOf, mem_starts, mem_continuations]
  cases name.toList with
  | nil =>
      constructor
      · intro h
        exact absurd h Bool.false_ne_true
      · rintro ⟨_, ⟨c, -, rfl⟩, rest, -, happend⟩
        exact absurd happend (List.cons_ne_nil c rest)
  | cons c rest =>
      rw [spellsIdentifier, Bool.and_eq_true, List.all_eq_true]
      constructor
      · rintro ⟨hc, hall⟩
        exact ⟨[c], ⟨c, hc, rfl⟩, rest, hall, rfl⟩
      · rintro ⟨_, ⟨d, hd, rfl⟩, others, hall, happend⟩
        cases happend
        exact ⟨hd, hall⟩

end Memberwise.Text
