import Memberwise.Proofs.Json.Skipping
import Memberwise.Proofs.Json.Grammar
import Memberwise.Proofs.Text.Identifiers

/-!
# Numbers and their spellings

A number is scanned up to the first character that belongs to none, and such a character is
always what follows a value.

Main results:

- Theorems {lit}`IsDigits.scanWhole_append` and {lit}`IsDigits.scanDecimals_append`: digits are
  read as far as they go.
- Theorem {lit}`IsNumber.exists_scan`: numbers are scanned to their end.
-/

namespace Memberwise.Json

/-! ## Digits -/

/-- Digits are taken from the front of a text that goes on otherwise. -/
theorem digits_append {digits rest : List Char} (hdigits : ∀ c ∈ digits, c.isDigit = true)
    (hrest : ∀ c ∈ rest.head?, c.isDigit = false) :
    leadingDigits (digits ++ rest) = digits ∧ afterDigits (digits ++ rest) = rest :=
  Text.takeWhile_and_dropWhile_append hdigits hrest

/-- Digits behind a point or in an exponent are read as far as they go. -/
theorem IsDigits.scanDecimals_append {digits rest : List Char} (h : IsDigits digits)
    (hrest : ∀ c ∈ rest.head?, c.isDigit = false) (atEnd : GrammarError) :
    Numeral.scanDecimals atEnd (digits ++ rest) = .ok (digits, rest) := by
  obtain ⟨hne, hdigits⟩ := h
  cases digits with
  | nil => exact absurd rfl hne
  | cons c digits =>
      obtain ⟨hleading, hafter⟩ := digits_append hdigits hrest
      rw [List.cons_append, Numeral.scanDecimals, if_pos (hdigits c (by simp)),
        ← List.cons_append, hleading, hafter]

/-- Digits before a point are read as far as they go. -/
theorem IsDigits.scanWhole_append {digits rest : List Char} (h : IsDigits digits)
    (hzero : digits.head? = some '0' → digits = ['0'])
    (hrest : ∀ c ∈ rest.head?, c.isDigit = false) (atEnd : GrammarError) :
    Numeral.scanWhole atEnd (digits ++ rest) = .ok (digits, rest) := by
  obtain ⟨hne, hdigits⟩ := h
  cases digits with
  | nil => exact absurd rfl hne
  | cons c digits =>
      obtain ⟨hleading, hafter⟩ := digits_append hdigits hrest
      by_cases hc : c = '0' ∧ digits ++ rest ≠ []
      · -- Behind a leading zero, the next character is looked at.
        obtain ⟨rfl, hmore⟩ := hc
        cases hzero rfl
        cases rest with
        | nil => exact absurd rfl hmore
        | cons d rest =>
            rw [List.singleton_append, Numeral.scanWhole, if_neg (by simp [hrest d rfl])]
      · rw [List.cons_append, Numeral.scanWhole.eq_3, if_pos (hdigits c (by simp)),
          ← List.cons_append, hleading, hafter]
        intro d after hc' hmore
        exact hc ⟨hc', by simp [hmore]⟩

/-- An exponent is read as far as it goes. -/
theorem IsExponent.exists_scan {exponent rest : List Char} (h : IsExponent exponent)
    (hrest : ∀ c ∈ rest.head?, c.isDigit = false ∧ c ∉ ['e', 'E']) (atEnd : GrammarError) :
    ∃ part, Numeral.scanExponent? atEnd (exponent ++ rest) = .ok (part, rest) := by
  have hnodigit : ∀ c ∈ rest.head?, c.isDigit = false := fun c hc => (hrest c hc).1
  cases h with
  | absent =>
      cases rest with
      | nil => exact ⟨_, rfl⟩
      | cons c rest =>
          have hc : ¬ (c = 'e' ∨ c = 'E') := by simpa using (hrest c rfl).2
          refine ⟨none, ?_⟩
          rw [List.nil_append, Numeral.scanExponent?, if_neg hc]
  | present hletter hsign hdigits =>
      rename_i letter sign digits
      have hscan := hdigits.scanDecimals_append hnodigit atEnd
      have hexponent : ∃ part,
          Numeral.scanExponent atEnd (sign ++ digits ++ rest) = .ok (part, rest) := by
        obtain ⟨hne, hall⟩ := hdigits
        cases digits with
        | nil => exact absurd rfl hne
        | cons d digits =>
            have hd : d.isDigit = true := hall d (by simp)
            have hplain : ¬ (d = '+' ∨ d = '-') := by
              rintro (rfl | rfl) <;> contradiction
            simp only [List.mem_cons, List.not_mem_nil, or_false] at hsign
            rcases hsign with rfl | rfl | rfl
            · rw [List.nil_append, List.cons_append, scanExponent_cons, if_neg hplain,
                ← List.cons_append, hscan, ok_bind]
              exact ⟨_, rfl⟩
            · rw [List.append_assoc, List.singleton_append, scanExponent_cons, if_pos (by simp),
                hscan, ok_bind]
              exact ⟨_, rfl⟩
            · rw [List.append_assoc, List.singleton_append, scanExponent_cons, if_pos (by simp),
                hscan, ok_bind]
              exact ⟨_, rfl⟩
      obtain ⟨part, hpart⟩ := hexponent
      refine ⟨some part, ?_⟩
      rw [List.cons_append, Numeral.scanExponent?, if_pos (by simpa using hletter), hpart, ok_bind]

/-! ## Numbers -/

/-- What may follow a value goes on with no part of a number. -/
theorem Closes.not_mem {rest : List Char} (h : Closes rest) :
    ∀ c ∈ rest.head?, c.isDigit = false ∧ c ≠ '.' ∧ c ∉ ['e', 'E'] := by
  intro c hc
  rcases h c hc with hblank | hclosing
  · have hblanks : c = ' ' ∨ c = '\n' ∨ c = '\t' ∨ c = '\r' := by
      simpa [isBlank, or_assoc] using hblank
    rcases hblanks with rfl | rfl | rfl | rfl <;> decide
  · simp only [List.mem_cons, List.not_mem_nil, or_false] at hclosing
    rcases hclosing with rfl | rfl | rfl <;> decide

/-- A fraction and an exponent start with no digit. -/
theorem head_fraction_append {fraction exponent rest : List Char} (hfraction : IsFraction fraction)
    (hexponent : IsExponent exponent) (hrest : Closes rest) :
    ∀ c ∈ (fraction ++ (exponent ++ rest)).head?, c.isDigit = false := by
  intro c hc
  cases hfraction with
  | present _ =>
      cases hc
      decide
  | absent =>
      cases hexponent with
      | present hletter _ _ =>
          cases hc
          simp only [List.mem_cons, List.not_mem_nil, or_false] at hletter
          rcases hletter with rfl | rfl <;> decide
      | absent => exact (hrest.not_mem c hc).1

/-- An exponent starts with neither a digit nor a point. -/
theorem head_exponent_append {exponent rest : List Char} (hexponent : IsExponent exponent)
    (hrest : Closes rest) :
    ∀ c ∈ (exponent ++ rest).head?, c.isDigit = false ∧ c ≠ '.' := by
  intro c hc
  cases hexponent with
  | present hletter _ _ =>
      cases hc
      simp only [List.mem_cons, List.not_mem_nil, or_false] at hletter
      rcases hletter with rfl | rfl <;> decide
  | absent => exact ⟨(hrest.not_mem c hc).1, (hrest.not_mem c hc).2.1⟩

/-- A number without its sign is read up to what follows it. -/
theorem exists_scanUnsigned {digits fraction exponent rest : List Char} (hdigits : IsDigits digits)
    (hzero : digits.head? = some '0' → digits = ['0']) (hfraction : IsFraction fraction)
    (hexponent : IsExponent exponent) (hrest : Closes rest) (atEnd : GrammarError)
    (isNegative : Bool) :
    ∃ numeral, Numeral.scanUnsigned atEnd isNegative
      (digits ++ (fraction ++ (exponent ++ rest))) = .ok (numeral, rest) := by
  have hwhole := hdigits.scanWhole_append hzero (head_fraction_append hfraction hexponent hrest)
    atEnd
  have hends : ∀ c ∈ rest.head?, c.isDigit = false ∧ c ∉ ['e', 'E'] :=
    fun c hc => ⟨(hrest.not_mem c hc).1, (hrest.not_mem c hc).2.2⟩
  obtain ⟨part, hpart⟩ := hexponent.exists_scan hends atEnd
  have hhead := head_exponent_append hexponent hrest
  rw [Numeral.scanUnsigned, hwhole, ok_bind]
  cases hfraction with
  | present hdecimals =>
      have hscan := hdecimals.scanDecimals_append (fun c hc => (hhead c hc).1) atEnd
      simp only [List.cons_append, hscan, ok_bind, hpart]
      exact ⟨_, rfl⟩
  | absent =>
      dsimp only [List.nil_append]
      split
      · rename_i tail hpoint
        rw [hpoint] at hhead
        exact absurd rfl (hhead '.' rfl).2
      · simp only [hpart, ok_bind]
        exact ⟨_, rfl⟩

/-- A number is read up to what follows it. -/
theorem IsNumber.exists_scan {text rest : List Char} (h : IsNumber text) (hrest : Closes rest)
    (atEnd : GrammarError) :
    ∃ numeral, Numeral.scan atEnd (text ++ rest) = .ok (numeral, rest) := by
  obtain ⟨integer, fraction, exponent, hinteger, hfraction, hexponent, rfl⟩ := h
  cases hinteger with
  | mk hsign hdigits hzero =>
      rename_i sign digits
      simp only [List.append_assoc]
      simp only [List.mem_cons, List.not_mem_nil, or_false] at hsign
      rcases hsign with rfl | rfl
      · rw [List.nil_append, Numeral.scan.eq_2]
        · exact exists_scanUnsigned hdigits hzero hfraction hexponent hrest atEnd false
        · intro tail hminus
          obtain ⟨hne, hall⟩ := hdigits
          cases digits with
          | nil => exact absurd rfl hne
          | cons d digits =>
              cases hminus
              have hd := hall '-' (by simp)
              contradiction
      · exact exists_scanUnsigned hdigits hzero hfraction hexponent hrest atEnd true

/-! ## Values of numbers -/

/-- A number without a value is at fault where it stands. -/
theorem path_of_evaluate_eq_error {numeral : Numeral} {rest : List Char} {fault : Fault}
    (h : numeral.evaluate rest = .error fault) : fault.path = [] := by
  unfold Numeral.evaluate failBefore at h
  dsimp only at h
  repeat' split at h
  all_goals
    first
    | contradiction
    | cases h
      rfl

end Memberwise.Json
