import Memberwise.Json.Skip
import Memberwise.Proofs.Json.Delimiting

/-!
# Ends of skipped values

A number ends at the first character that does not belong to it, so unlike other values it can
be changed by the next character.  A value that is skipped is no better, as it may be a number.

Main results:

- Theorem {lit}`isLocal_skipNumber`: numbers.
- Theorem {lit}`skipFrom_append`: every step of skipping a value.
- Theorem {lit}`isLocal_skipValue`: values that are skipped.
-/

namespace Memberwise.Json

/-! ## Numbers -/

/-- The digits at the front of a text that do not fill it stay the same when the text goes
on. -/
theorem leadingDigits_append {text : List Char} (h : afterDigits text ≠ []) (more : List Char) :
    leadingDigits (text ++ more) = leadingDigits text := by
  induction text with
  | nil => exact absurd rfl h
  | cons c text ih =>
      unfold leadingDigits afterDigits at *
      by_cases hdigit : c.isDigit = true
      · simp only [List.cons_append, List.takeWhile_cons, hdigit, if_true]
        rw [ih (by simpa [List.dropWhile_cons, hdigit] using h)]
      · simp [hdigit]

/-- What follows the digits at the front of a text goes on when the text does. -/
theorem afterDigits_append {text : List Char} (h : afterDigits text ≠ []) (more : List Char) :
    afterDigits (text ++ more) = afterDigits text ++ more := by
  unfold afterDigits at h ⊢
  rw [List.dropWhile_append, if_neg (by simpa using h)]

/-- A nonempty list of digits is read up to the first other character. -/
theorem isLocal_scanDecimals (atEnd : GrammarError) :
    IsLocal (Numeral.scanDecimals atEnd) := by
  intro text rest value h hrest more
  cases text with
  | nil => simp [Numeral.scanDecimals] at h
  | cons c text =>
      rw [Numeral.scanDecimals] at h
      split at h
      · rename_i hdigit
        cases h
        rw [List.cons_append, Numeral.scanDecimals, if_pos hdigit, ← List.cons_append,
          leadingDigits_append hrest, afterDigits_append hrest]
      · simp at h

/-- The digits before the point are read up to the first other character. -/
theorem isLocal_scanWhole (atEnd : GrammarError) : IsLocal (Numeral.scanWhole atEnd) := by
  intro text rest value h hrest more
  unfold Numeral.scanWhole at h
  split at h
  · simp at h
  · rename_i c tail
    split at h
    · simp at h
    · rename_i hdigit
      cases h
      simp [Numeral.scanWhole, hdigit]
  · rename_i c tail hzero
    split at h
    · rename_i hdigit
      cases h
      have hmore : ∀ d after, c = '0' → tail ++ more ≠ d :: after := by
        rintro d after rfl happend
        cases tail with
        | nil => exact hrest rfl
        | cons e tail => exact hzero e tail rfl rfl
      rw [List.cons_append, Numeral.scanWhole.eq_3 _ _ _ hmore, if_pos hdigit,
        ← List.cons_append, leadingDigits_append hrest, afterDigits_append hrest]
    · simp at h

/-- An exponent is a sign, which may be missing, and a nonempty list of digits. -/
theorem scanExponent_cons (atEnd : GrammarError) (c : Char) (tail : List Char) :
    Numeral.scanExponent atEnd (c :: tail) =
      Numeral.scanDecimals atEnd (if c = '+' ∨ c = '-' then tail else c :: tail) >>=
        fun found => .ok (⟨c = '-', found.1⟩, found.2) := by
  by_cases hplus : c = '+'
  · subst hplus
    cases tail with
    | nil => rfl
    | cons d tail =>
        simp only [Numeral.scanExponent, Numeral.scanDecimals, true_or, if_true]
        split <;> rfl
  · by_cases hminus : c = '-'
    · subst hminus
      cases tail with
      | nil => rfl
      | cons d tail =>
          simp only [Numeral.scanExponent, Numeral.scanDecimals, or_true, if_true]
          split <;> rfl
    · rw [if_neg (by simp [hplus, hminus])]
      simp [Numeral.scanExponent, Numeral.scanDecimals, hplus, hminus]
      split <;> rfl

/-- An exponent is read up to the first other character. -/
theorem isLocal_scanExponent (atEnd : GrammarError) :
    IsLocal (Numeral.scanExponent atEnd) := by
  intro text rest value h hrest more
  cases text with
  | nil => simp [Numeral.scanExponent] at h
  | cons c tail =>
      rw [scanExponent_cons] at h
      rcases bind_eq_ok_iff.mp h with ⟨⟨digits, after⟩, hdigits, hfound⟩
      cases hfound
      rw [List.cons_append, scanExponent_cons]
      have hmore := isLocal_scanDecimals atEnd hdigits hrest more
      split at hmore
      · rename_i hsign
        rw [if_pos hsign, hmore, ok_bind]
      · rename_i hsign
        rw [if_neg hsign, ← List.cons_append, hmore, ok_bind]

/-- An exponent that may be missing is read up to the first other character. -/
theorem isLocal_scanExponent? (atEnd : GrammarError) :
    IsLocal (Numeral.scanExponent? atEnd) := by
  intro text rest value h hrest more
  cases text with
  | nil =>
      cases h
      exact absurd rfl hrest
  | cons c tail =>
      rw [Numeral.scanExponent?] at h
      rw [List.cons_append, Numeral.scanExponent?]
      split at h
      · rename_i hletter
        rcases bind_eq_ok_iff.mp h with ⟨⟨exponent, after⟩, hexponent, hfound⟩
        cases hfound
        rw [if_pos hletter, isLocal_scanExponent atEnd hexponent hrest more, ok_bind]
      · rename_i hletter
        cases h
        rw [if_neg hletter, List.cons_append]

/-- The parts of a number are read up to the first character that does not belong to it. -/
theorem isLocal_scanUnsigned (atEnd : GrammarError) (isNegative : Bool) :
    IsLocal (Numeral.scanUnsigned atEnd isNegative) := by
  intro text rest value h hrest more
  rcases bind_eq_ok_iff.mp h with ⟨⟨whole, afterWhole⟩, hwhole, hfound⟩
  have hne : afterWhole ≠ [] := by
    rintro rfl
    cases hfound
    exact hrest rfl
  have hmore := isLocal_scanWhole atEnd hwhole hne more
  dsimp only at hfound
  split at hfound
  · rename_i tail
    rcases bind_eq_ok_iff.mp hfound with ⟨⟨decimals, afterDecimals⟩, hdecimals, hfound⟩
    rcases bind_eq_ok_iff.mp hfound with ⟨⟨exponent, afterExponent⟩, hexponent, hfound⟩
    cases hfound
    have hne : afterDecimals ≠ [] := by
      rintro rfl
      cases hexponent
      exact hrest rfl
    have hdecimals := isLocal_scanDecimals atEnd hdecimals hne more
    have hexponent := isLocal_scanExponent? atEnd hexponent hrest more
    simp only [Numeral.scanUnsigned, hmore, ok_bind, List.cons_append, hdecimals, hexponent]
  · rename_i hpoint
    rcases bind_eq_ok_iff.mp hfound with ⟨⟨exponent, afterExponent⟩, hexponent, hfound⟩
    cases hfound
    have hexponent := isLocal_scanExponent? atEnd hexponent hrest more
    simp only [Numeral.scanUnsigned, hmore, ok_bind]
    split
    · rename_i tail happend
      cases afterWhole with
      | nil => exact absurd rfl hne
      | cons c afterWhole =>
          cases happend
          exact absurd rfl (hpoint afterWhole)
    · simp only [hexponent, ok_bind]

/-- A number is read up to the first character that does not belong to it. -/
theorem isLocal_scan (atEnd : GrammarError) : IsLocal (Numeral.scan atEnd) := by
  intro text rest value h hrest more
  unfold Numeral.scan at h
  split at h
  · exact isLocal_scanUnsigned atEnd true h hrest more
  · rename_i hsign
    have hmore := isLocal_scanUnsigned atEnd false h hrest more
    cases text with
    | nil => cases h
    | cons c tail =>
        rw [Numeral.scan.eq_2 _ _ (fun after happend => ?_)]
        · exact hmore
        · cases happend
          exact hsign tail rfl

/-- A number that is skipped is skipped up to the first character that does not belong to it. -/
theorem isLocal_skipNumber : IsLocal skipNumber :=
  (isLocal_scan .invalidNumber).map fun _ => ()

/-! ## Values that are skipped -/

/-- The colon behind a name ends itself. -/
theorem selfDelimiting_readColon : SelfDelimiting readColon := by
  refine selfDelimiting_afterBlanks fun c => ?_
  exact .ite (selfDelimiting_done ()) (selfDelimiting_failWithin _ c)

/-- What stands in front of a value ends with its colon. -/
theorem selfDelimiting_skipName (bracket : Bracket) : SelfDelimiting (skipName bracket) := by
  cases bracket with
  | square => exact selfDelimiting_done ()
  | curly =>
      refine selfDelimiting_afterBlanks fun c => ?_
      refine .ite ?_ (selfDelimiting_failWithin _ c)
      exact selfDelimiting_skipChars.bind fun _ => selfDelimiting_readColon

/-- A value without parts is skipped up to the first character that does not belong to it. -/
theorem isLocal_skipScalar (c : Char) : IsLocal (skipScalar c) := by
  have hnumber : IsLocal fun rest => skipNumber (c :: rest) :=
    fun _ _ _ h hrest more => isLocal_skipNumber h hrest more
  refine .ite (selfDelimiting_word _).isLocal ?_
  refine .ite (selfDelimiting_word _).isLocal ?_
  refine .ite (selfDelimiting_word _).isLocal ?_
  refine .ite hnumber ?_
  exact .ite selfDelimiting_skipChars.isLocal (selfDelimiting_failWithin _ c).isLocal

/-- Nothing follows the end of a text. -/
theorem eq_nil_of_skipFrom_afterValue {steps : Nat} {enclosing : List Bracket}
    {rest : List Char} (h : skipFrom steps (.afterValue enclosing) [] = .ok ((), rest)) :
    rest = [] := by
  cases steps with
  | zero => simp [skipFrom] at h
  | succ steps =>
      cases enclosing with
      | nil =>
          cases h
          rfl
      | cons bracket outer => simp [skipFrom, skipBlanks] at h

/-- Skipping what is left of a value goes on the same way when the text does, and with more
steps, provided that it leaves something behind it. -/
theorem skipFrom_append {steps : Nat} {progress : Progress} {text rest : List Char}
    (h : skipFrom steps progress text = .ok ((), rest)) (hrest : rest ≠ []) {steps' : Nat}
    (hsteps : steps ≤ steps') (more : List Char) :
    skipFrom steps' progress (text ++ more) = .ok ((), rest ++ more) := by
  induction steps generalizing steps' progress text with
  | zero => simp [skipFrom] at h
  | succ steps ih =>
      obtain ⟨steps', rfl⟩ := Nat.exists_eq_add_one_of_ne_zero (by omega : steps' ≠ 0)
      have hle : steps ≤ steps' := by omega
      cases progress with
      | beforeValue enclosing =>
          rw [skipFrom] at h
          split at h
          · simp at h
          · rename_i c tail hskip
            rw [skipFrom, skipBlanks_append hskip]
            dsimp only
            split at h
            · rename_i hsquare
              rw [if_pos hsquare]
              exact ih h hle
            rename_i hsquare
            rw [if_neg hsquare]
            split at h
            · rename_i hcurly
              rw [if_pos hcurly]
              exact ih h hle
            rename_i hcurly
            rw [if_neg hcurly]
            split at h
            · contradiction
            · rename_i after hscalar
              -- Behind the value stands what is left over, or what closes a bracket.
              have hne : after ≠ [] := by
                rintro rfl
                exact hrest (eq_nil_of_skipFrom_afterValue h)
              rw [isLocal_skipScalar c hscalar hne more]
              exact ih h hle
      | afterOpening bracket outer =>
          rw [skipFrom] at h
          split at h
          · simp at h
          · rename_i c tail hskip
            rw [skipFrom, skipBlanks_append hskip]
            dsimp only
            split at h
            · rename_i hclosing
              rw [if_pos hclosing]
              exact ih h hle
            rename_i hclosing
            rw [if_neg hclosing]
            split at h
            · contradiction
            · rename_i after hname
              rw [← List.cons_append, selfDelimiting_skipName bracket hname more]
              exact ih h hle
      | afterValue enclosing =>
          cases enclosing with
          | nil =>
              cases h
              rfl
          | cons bracket outer =>
              rw [skipFrom] at h
              split at h
              · simp at h
              · rename_i c tail hskip
                rw [skipFrom, skipBlanks_append hskip]
                dsimp only
                split at h
                · rename_i hcomma
                  rw [if_pos hcomma]
                  split at h
                  · contradiction
                  · rename_i after hname
                    rw [selfDelimiting_skipName bracket hname more]
                    exact ih h hle
                rename_i hcomma
                rw [if_neg hcomma]
                split at h
                · rename_i hclosing
                  rw [if_pos hclosing]
                  exact ih h hle
                · simp at h

/-- A value is skipped up to the first character that does not belong to it. -/
theorem isLocal_skipValue : IsLocal skipValue := by
  intro text rest value h hrest more
  have hsteps : 2 * text.length + 2 ≤ 2 * (text ++ more).length + 2 := by
    rw [List.length_append]
    omega
  exact skipFrom_append h hrest hsteps more

end Memberwise.Json
