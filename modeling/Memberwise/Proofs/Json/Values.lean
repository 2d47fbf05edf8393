import Mathlib.Data.List.DropRight
import Memberwise.Proofs.Json.Numbers
import Memberwise.Proofs.Json.Strings

/-!
# Values that nobody asks for

Every value can be skipped, however deep it is nested.  The steps that skipping takes are no more
than twice the characters of the value.

Main definitions:

- {lit}`Skips`: whether a text is skipped in some number of steps.

Main results:

- Theorem {lit}`IsJson.begins`: what values begin with.
- Theorem {lit}`IsJson.exists_skips`: values of all kinds are skipped.
- Theorem {lit}`IsJson.skipValue_append`: a value is skipped up to what follows it.
-/

namespace Memberwise.Json

/-! ## Beginnings -/

/-- An integer starts with a minus sign or a digit. -/
theorem IsInteger.exists_cons {text : List Char} (h : IsInteger text) :
    ∃ c tail, text = c :: tail ∧ (c = '-' ∨ c.isDigit = true) := by
  cases h with
  | mk hsign hdigits hzero =>
      rename_i sign digits
      obtain ⟨hne, hall⟩ := hdigits
      simp only [List.mem_cons, List.not_mem_nil, or_false] at hsign
      rcases hsign with rfl | rfl
      · cases digits with
        | nil => exact absurd rfl hne
        | cons d digits => exact ⟨d, digits, rfl, Or.inr (hall d (by simp))⟩
      · exact ⟨'-', digits, rfl, Or.inl rfl⟩

/-- A digit is neither a letter that a word starts with nor a quote, a blank or a bracket. -/
theorem not_mem_of_isDigit {c : Char} (h : c.isDigit = true) :
    isBlank c = false ∧ c ∉ ['n', 't', 'f', '"', '[', '{', ']', '}'] := by
  constructor
  · rw [← Bool.not_eq_true]
    intro hblank
    have hblanks : c = ' ' ∨ c = '\n' ∨ c = '\t' ∨ c = '\r' := by
      simpa [isBlank, or_assoc] using hblank
    rcases hblanks with rfl | rfl | rfl | rfl <;> contradiction
  · intro hmem
    simp only [List.mem_cons, List.not_mem_nil, or_false] at hmem
    rcases hmem with rfl | rfl | rfl | rfl | rfl | rfl | rfl | rfl <;> contradiction

/-- An integer starts like no value of another kind. -/
theorem IsInteger.exists_cons_not_mem {text : List Char} (h : IsInteger text) :
    ∃ c tail, text = c :: tail ∧ (c = '-' ∨ c.isDigit = true) ∧ isBlank c = false ∧
      c ∉ ['n', 't', 'f', '"', '[', '{', ']', '}'] := by
  obtain ⟨c, tail, rfl, hc⟩ := h.exists_cons
  refine ⟨c, tail, rfl, hc, ?_⟩
  rcases hc with rfl | hdigit
  · decide
  · exact not_mem_of_isDigit hdigit

/-- An opening bracket begins a value. -/
theorem Enclosed.begins {α : Type} {bracket : Bracket} {spells : α → List Char → Prop}
    {list : List α} {text : List Char} (h : Enclosed bracket spells list text) : Begins text := by
  cases h <;> cases bracket <;> exact ⟨_, _, rfl, by decide, by decide⟩

/-- A value begins with neither a blank nor a closing bracket. -/
theorem IsJson.begins {text : List Char} (h : IsJson text) : Begins text := by
  cases h with
  | null h =>
      cases h
      exact ⟨_, _, rfl, by decide, by decide⟩
  | @boolean value text h =>
      cases h
      cases value <;> exact ⟨_, _, rfl, by decide, by decide⟩
  | number h =>
      obtain ⟨integer, fraction, exponent, hinteger, -, -, rfl⟩ := h
      obtain ⟨c, tail, rfl, -, hblank, hmem⟩ := hinteger.exists_cons_not_mem
      refine ⟨c, tail ++ (fraction ++ exponent), rfl, hblank, ?_⟩
      intro hclosing
      exact hmem (by simp_all)
  | string h =>
      obtain ⟨parts, -, rfl⟩ := h
      exact ⟨_, _, rfl, by decide, by decide⟩
  | array h _ => exact h.begins
  | object h _ _ => exact h.begins

/-- Behind blanks, a value is found where it begins. -/
theorem Begins.skipBlanks_append {text blanks : List Char} (h : Begins text)
    (hblanks : IsBlanks blanks) (rest : List Char) :
    skipBlanks (blanks ++ (text ++ rest)) = text ++ rest := by
  obtain ⟨c, tail, rfl, hc, -⟩ := h
  exact skipBlanks_blanks_append hblanks hc _

/-! ## Steps -/

/-- Whether a text is skipped in some number of steps wherever it stands, and whether its length
allows for them. -/
def Skips (cost : Nat) (text : List Char) : Prop :=
  cost ≤ 2 * text.length ∧
    ∀ {blanks rest : List Char} (enclosing : List Bracket) (steps : Nat), IsBlanks blanks →
      Closes rest → skipFrom (steps + cost) (.beforeValue enclosing) (blanks ++ (text ++ rest)) =
        skipFrom steps (.afterValue enclosing) rest

/-- A value without parts is skipped in one step. -/
theorem skips_scalar {c : Char} {tail : List Char} (hc : isBlank c = false)
    (hbracket : c ∉ ['[', '{'])
    (h : ∀ {rest}, Closes rest → skipScalar c (tail ++ rest) = .ok ((), rest)) :
    Skips 1 (c :: tail) := by
  refine ⟨by simp only [List.length_cons]; omega, ?_⟩
  intro blanks rest enclosing steps hblanks hrest
  obtain ⟨hsquare, hcurly⟩ : c ≠ '[' ∧ c ≠ '{' := by simpa using hbracket
  rw [skipFrom, List.cons_append, skipBlanks_blanks_append hblanks hc]
  dsimp only
  rw [if_neg hsquare, if_neg hcurly, h hrest]

/-- Skips the name in front of a value, if there is one, and then what is left of the brackets
around it. -/
def skipItem (bracket : Bracket) (outer : List Bracket) (steps : Nat) (text : List Char) :
    Except Fault (Unit × List Char) :=
  match skipName bracket text with
  | .error fault => .error fault
  | .ok ((), rest) => skipFrom steps (.beforeValue (bracket :: outer)) rest

section Items

variable {bracket : Bracket} {outer : List Bracket} {steps : Nat} {blanks : List Char}

/-- Behind a comma comes another item. -/
theorem skipFrom_comma (hblanks : IsBlanks blanks) (rest : List Char) :
    skipFrom (steps + 1) (.afterValue (bracket :: outer)) (blanks ++ ',' :: rest) =
      skipItem bracket outer steps rest := by
  rw [skipFrom, skipBlanks_blanks_append hblanks (by decide)]
  rfl

/-- Behind the last item comes the closing bracket. -/
theorem skipFrom_closing (hblanks : IsBlanks blanks) (rest : List Char) :
    skipFrom (steps + 1) (.afterValue (bracket :: outer)) (blanks ++ bracket.closing :: rest) =
      skipFrom steps (.afterValue outer) rest := by
  have hclosing : isBlank bracket.closing = false ∧ bracket.closing ≠ ',' := by
    cases bracket <;> decide
  rw [skipFrom, skipBlanks_blanks_append hblanks hclosing.1]
  dsimp only
  rw [if_neg hclosing.2, if_pos rfl]

/-- Blanks in front of an item make no difference. -/
theorem skipItem_skipBlanks (text : List Char) :
    skipItem bracket outer (steps + 1) (skipBlanks text) =
      skipItem bracket outer (steps + 1) text := by
  have hidem : skipBlanks (skipBlanks text) = skipBlanks text := by
    unfold skipBlanks
    rw [List.dropWhile_idempotent]
  cases bracket with
  | square => simp only [skipItem, skipName, skipFrom, hidem]
  | curly => simp only [skipItem, skipName, hidem]

/-- Behind an opening bracket comes the first item. -/
theorem skipFrom_opening {text tail : List Char} {c : Char} (hskip : skipBlanks text = c :: tail)
    (hc : c ∉ [']', '}']) :
    skipFrom (steps + 2) (.afterOpening bracket outer) text =
      skipItem bracket outer (steps + 1) text := by
  have hclosing : c ≠ bracket.closing := by
    rintro rfl
    cases bracket <;> exact hc (by decide)
  rw [← skipItem_skipBlanks, skipFrom, hskip]
  dsimp only
  rw [if_neg hclosing]
  rfl

end Items

/-! ## Items -/

/-- Whether a text is skipped, as an item in a bracket, in some number of steps. -/
def SkipsItem (bracket : Bracket) (cost : Nat) (text : List Char) : Prop :=
  cost ≤ 2 * text.length ∧ (∃ c tail, skipBlanks text = c :: tail ∧ c ∉ [']', '}']) ∧
    ∃ blanks, IsBlanks blanks ∧ ∀ {rest : List Char} (outer : List Bracket) (steps : Nat),
      Closes rest → skipItem bracket outer (steps + cost) (text ++ rest) =
        skipFrom steps (.afterValue (bracket :: outer)) (blanks ++ rest)

/-- An element of an array is skipped as its value is. -/
theorem Skips.skipsItem_square {cost : Nat} {element text : List Char} (h : Skips cost element)
    (hbegins : Begins element) (htext : Padded Eq element text) :
    SkipsItem .square cost text := by
  obtain ⟨before, _, after, hbefore, rfl, hafter, rfl⟩ := htext
  obtain ⟨hcost, hskip⟩ := h
  refine ⟨?_, ?_, after, hafter, ?_⟩
  · simp only [List.length_append]
    omega
  · obtain ⟨c, tail, rfl, hc, hclosing⟩ := hbegins
    exact ⟨c, tail ++ after, skipBlanks_blanks_append hbefore hc _, hclosing⟩
  · intro rest outer steps hrest
    simp only [skipItem, skipName, List.append_assoc]
    exact hskip _ _ hbefore (hrest.blanks_append hafter)

/-- A member of an object is skipped as its value is. -/
theorem Skips.skipsItem_curly {cost : Nat} {name value text : List Char} (h : Skips cost value)
    (hname : IsString name) (htext : SpellsMember Eq Eq (name, value) text) :
    SkipsItem .curly cost text := by
  obtain ⟨_, _, ⟨before, _, behind, hbefore, rfl, hbehind, rfl⟩,
    ⟨front, _, after, hfront, rfl, hafter, rfl⟩, rfl⟩ := htext
  obtain ⟨hcost, hskip⟩ := h
  obtain ⟨inside, hquote, hinside⟩ := hname.exists_skipChars
  dsimp only at hquote hskip ⊢
  subst hquote
  refine ⟨?_, ?_, after, hafter, ?_⟩
  · simp only [List.length_append, List.length_cons]
    omega
  · exact ⟨'"', _, by
      rw [List.append_assoc]
      exact skipBlanks_blanks_append hbefore (by decide) _, by decide⟩
  · intro rest outer steps hrest
    have hcolon : readColon (behind ++ ':' :: (front ++ (value ++ (after ++ rest)))) =
        .ok ((), front ++ (value ++ (after ++ rest))) := by
      rw [readColon, skipBlanks_blanks_append hbehind (by decide)]
      rfl
    have hskipName : skipName .curly
        (before ++ '"' :: (inside ++ (behind ++ ':' :: (front ++ (value ++ (after ++ rest)))))) =
          .ok ((), front ++ (value ++ (after ++ rest))) := by
      rw [skipName, skipBlanks_blanks_append hbefore (by decide)]
      dsimp only
      rw [if_pos rfl, hinside, ok_bind]
      exact hcolon
    simp only [skipItem, List.append_assoc, List.cons_append]
    rw [hskipName]
    exact hskip _ _ hfront (hrest.blanks_append hafter)

/-- Items with commas between them are skipped one after another, up to the closing bracket. -/
theorem Separated.exists_skipItem {α : Type} {bracket : Bracket} {spells : α → List Char → Prop}
    {list : List α} {text : List Char} (h : Separated spells list text)
    (hitems : ∀ a ∈ list, ∀ text, spells a text → ∃ cost, SkipsItem bracket cost text) :
    ∃ cost, cost + 1 ≤ 2 * text.length + 2 ∧
      ∀ outer steps rest, skipItem bracket outer (steps + (cost + 1))
        (text ++ bracket.closing :: rest) = skipFrom steps (.afterValue outer) rest := by
  induction h with
  | last h =>
      obtain ⟨cost, hcost, -, blanks, hblanks, hskip⟩ := hitems _ (by simp) _ h
      refine ⟨cost, by omega, ?_⟩
      intro outer steps rest
      have hsteps : steps + (cost + 1) = steps + 1 + cost := by omega
      rw [hsteps, hskip _ _ (closes_closing bracket rest), skipFrom_closing hblanks]
  | cons h hmore ih =>
      obtain ⟨cost, hcost, -, blanks, hblanks, hskip⟩ := hitems _ (by simp) _ h
      obtain ⟨others, hothers, hrest⟩ := ih fun a ha => hitems a (by simp [ha])
      refine ⟨cost + (others + 1), ?_, ?_⟩
      · simp only [List.length_append, List.length_cons]
        omega
      · intro outer steps rest
        have hsteps : steps + (cost + (others + 1) + 1) = steps + (others + 1) + 1 + cost := by
          omega
        rw [List.append_assoc, List.cons_append, hsteps, hskip _ _ (closes_comma _),
          skipFrom_comma hblanks, hrest]

/-- Items between brackets are skipped. -/
theorem Enclosed.exists_skips {α : Type} {bracket : Bracket} {spells : α → List Char → Prop}
    {list : List α} {text : List Char} (h : Enclosed bracket spells list text)
    (hitems : ∀ a ∈ list, ∀ text, spells a text → ∃ cost, SkipsItem bracket cost text) :
    ∃ cost, Skips cost text := by
  have hopening : isBlank bracket.opening = false := by cases bracket <;> decide
  -- The first step takes the opening bracket, of which each kind has its own branch.
  have hopens : ∀ steps enclosing {blanks : List Char} rest, IsBlanks blanks →
      skipFrom (steps + 1) (.beforeValue enclosing) (blanks ++ bracket.opening :: rest) =
        skipFrom steps (.afterOpening bracket enclosing) rest := by
    intro steps enclosing blanks rest hblanks
    rw [skipFrom, skipBlanks_blanks_append hblanks hopening]
    cases bracket <;> rfl
  cases h with
  | empty hinside =>
      rename_i inside
      refine ⟨2, ?_, ?_⟩
      · simp only [List.length_append, List.length_cons]
        omega
      · intro blanks rest enclosing steps hblanks _
        have hclosing : isBlank bracket.closing = false := by cases bracket <;> decide
        rw [List.cons_append, hopens _ _ _ hblanks, skipFrom, List.append_assoc,
          List.singleton_append, skipBlanks_blanks_append hinside hclosing]
        dsimp only
        rw [if_pos rfl]
  | filled h =>
      rename_i inside
      obtain ⟨cost, hcost, hskip⟩ := h.exists_skipItem hitems
      obtain ⟨c, tail, hbegins, hc⟩ : ∃ c tail, skipBlanks inside = c :: tail ∧ c ∉ [']', '}'] := by
        obtain ⟨a, ha, first, more, hfirst, rfl⟩ := h.exists_first
        obtain ⟨_, -, ⟨c, tail, hbegins, hc⟩, -⟩ := hitems a ha first hfirst
        exact ⟨c, _, skipBlanks_append hbegins more, hc⟩
      refine ⟨cost + 3, ?_, ?_⟩
      · simp only [List.length_append, List.length_cons, List.length_nil]
        omega
      · intro blanks rest enclosing steps hblanks _
        have hsteps : steps + (cost + 3) = steps + cost + 2 + 1 := by omega
        rw [List.cons_append, hsteps, hopens _ _ _ hblanks, List.append_assoc,
          List.singleton_append, skipFrom_opening (skipBlanks_append hbegins _) hc]
        exact hskip enclosing steps rest

/-! ## Values -/

/-- A value of any kind is skipped. -/
theorem IsJson.exists_skips {text : List Char} (h : IsJson text) : ∃ cost, Skips cost text := by
  induction h with
  | null h =>
      cases h
      exact ⟨1, skips_scalar (by decide) (by decide) fun _ => word_append ['u', 'l', 'l'] _⟩
  | @boolean value text h =>
      cases h
      cases value with
      | true =>
          exact ⟨1, skips_scalar (by decide) (by decide) fun _ => word_append ['r', 'u', 'e'] _⟩
      | false =>
          exact ⟨1, skips_scalar (by decide) (by decide) fun _ =>
            word_append ['a', 'l', 's', 'e'] _⟩
  | @number text h =>
      have hnumber := h
      obtain ⟨integer, fraction, exponent, hinteger, -, -, rfl⟩ := h
      obtain ⟨c, tail, rfl, hc, hblank, hmem⟩ := hinteger.exists_cons_not_mem
      refine ⟨1, skips_scalar hblank (fun hbracket => hmem (by simp_all)) ?_⟩
      intro rest hrest
      obtain ⟨numeral, hscan⟩ := hnumber.exists_scan hrest .invalidNumber
      have hskip : skipNumber (c :: (tail ++ (fraction ++ exponent) ++ rest)) = .ok ((), rest) := by
        rw [skipNumber, ← List.cons_append, ← List.cons_append, hscan, ok_bind]
      have hletters : c ≠ 'n' ∧ c ≠ 't' ∧ c ≠ 'f' := by simp_all
      rw [skipScalar, if_neg hletters.1, if_neg hletters.2.1, if_neg hletters.2.2, if_pos hc]
      exact hskip
  | string h =>
      obtain ⟨tail, rfl, htail⟩ := h.exists_skipChars
      refine ⟨1, skips_scalar (by decide) (by decide) ?_⟩
      intro rest hrest
      exact htail rest
  | array h helements ih =>
      refine h.exists_skips ?_
      intro element helement text htext
      obtain ⟨cost, hcost⟩ := ih element helement
      exact ⟨cost, hcost.skipsItem_square (helements element helement).begins htext⟩
  | object h hnames hvalues ih =>
      refine h.exists_skips ?_
      intro member hmember text htext
      obtain ⟨cost, hcost⟩ := ih member hmember
      exact ⟨cost, hcost.skipsItem_curly (hnames member hmember) htext⟩

/-- A value is skipped up to what follows it. -/
theorem IsJson.skipValue_append {text blanks rest : List Char} (h : IsJson text)
    (hblanks : IsBlanks blanks) (hrest : Closes rest) :
    skipValue (blanks ++ (text ++ rest)) = .ok ((), rest) := by
  obtain ⟨cost, hcost, hskip⟩ := h.exists_skips
  have hlength : text.length ≤ (blanks ++ (text ++ rest)).length := by
    simp only [List.length_append]
    omega
  obtain ⟨steps, hsteps⟩ : ∃ steps,
      2 * (blanks ++ (text ++ rest)).length + 2 = steps + 1 + cost :=
    ⟨2 * (blanks ++ (text ++ rest)).length + 1 - cost, by omega⟩
  rw [skipValue, hsteps, hskip [] _ hblanks hrest]
  rfl

end Memberwise.Json
