import Memberwise.Proofs.Conversion.Keys
import Memberwise.Proofs.Dart.Scoping
import Memberwise.Proofs.Text.LineEnds

/-!
# Reading literals with interpolation

A double-quoted literal consists of characters and of the names that it interpolates.  A reader
takes it from the front of whatever follows it, and what is read prints a text as soon as the
names have values.

Main definitions:

- {lit}`readQuoted`: the reader of double-quoted literals.
- {lit}`printed`: the text that pieces of a literal print.

Main results:

- Theorem {lit}`readQuotedBody_plain`: plain text is read character by character.
- Theorem {lit}`readQuotedBody_value`: an interpolated variable is read as far as its name goes.
- Theorem {lit}`interpolations_of_readQuotedBody`: the names in what is read are those that the
  literal interpolates.
-/

namespace Memberwise.Dart

open Memberwise.Text

/-! ## Printing -/

namespace Piece

/-- The name that a piece interpolates, if it is no plain text. -/
def name? : Piece → Option String
  | plain _ => none
  | value name => some name

/-- The characters that a piece prints when the names have some values. -/
def print (values : String → String) : Piece → List Char
  | plain text => text.toList
  | value name => (values name).toList

/-- A piece as it is read: plain text falls apart into its characters. -/
def letters : Piece → List Piece
  | plain text => text.toList.map fun c => plain (String.singleton c)
  | value name => [value name]

end Piece

/-- The text that pieces print when the names have some values. -/
def printed (values : String → String) (pieces : List Piece) : List Char :=
  pieces.flatMap (Piece.print values)

/-- Pieces print the same when they fall apart into characters. -/
theorem printed_letters (values : String → String) (pieces : List Piece) :
    printed values (pieces.flatMap Piece.letters) = printed values pieces := by
  have hpiece : ∀ piece : Piece, printed values piece.letters = piece.print values := by
    intro piece
    cases piece with
    | plain text => simp [printed, Piece.letters, Piece.print, List.flatMap_map]
    | value name => simp [printed, Piece.letters, Piece.print]
  unfold printed at hpiece ⊢
  rw [List.flatMap_assoc]
  simp only [hpiece]

/-- Pieces interpolate the same names when they fall apart into characters. -/
theorem filterMap_name?_letters (pieces : List Piece) :
    (pieces.flatMap Piece.letters).filterMap Piece.name? = pieces.filterMap Piece.name? := by
  induction pieces with
  | nil => rfl
  | cons piece pieces ih =>
      rw [List.flatMap_cons, List.filterMap_append, ih]
      cases piece with
      | plain text =>
          rw [Piece.letters, List.filterMap_map, List.filterMap_cons_none rfl]
          simp [Function.comp_def, Piece.name?]
      | value name => simp [Piece.letters, Piece.name?]

/-! ## The reader -/

/-- Puts pieces in front of those that were read. -/
def ahead (pieces : List Piece) (found : Option (List Piece × List Char)) :
    Option (List Piece × List Char) :=
  found.map fun (others, rest) => (pieces ++ others, rest)

@[simp]
theorem ahead_nil (found : Option (List Piece × List Char)) : ahead [] found = found := by
  cases found <;> rfl

@[simp]
theorem ahead_ahead (first second : List Piece) (found : Option (List Piece × List Char)) :
    ahead first (ahead second found) = ahead (first ++ second) found := by
  cases found <;> simp [ahead]

/-- Reads a double-quoted literal from behind its opening quote: its pieces, and what follows its
closing quote.  A backslash takes the next character out; a dollar sign interpolates the name in
the braces behind it, or the name that goes on as far as it can.  There is no literal without a
closing quote, over a line end, or with anything but a name to interpolate. -/
def readQuotedBody : List Char → Option (List Piece × List Char)
  | [] => none
  | '"' :: rest => some ([], rest)
  | ['\\'] => none
  | '\\' :: c :: rest =>
      ahead [.plain (String.singleton (behindBackslash c))] (readQuotedBody rest)
  | '$' :: '{' :: rest =>
      if '}' ∈ rest ∧ spellsIdentifier (rest.takeWhile (· != '}')) then
        ahead [.value (String.ofList (rest.takeWhile (· != '}')))]
          (readQuotedBody ((rest.dropWhile (· != '}')).drop 1))
      else none
  | '$' :: rest =>
      if spellsIdentifier (rest.takeWhile isBareNameRest) then
        ahead [.value (String.ofList (rest.takeWhile isBareNameRest))]
          (readQuotedBody (rest.dropWhile isBareNameRest))
      else none
  | c :: rest =>
      if c ∈ lineEnds then none
      else ahead [.plain (String.singleton c)] (readQuotedBody rest)
termination_by chars => chars.length
decreasing_by
  all_goals
    have hshorter (p : Char → Bool) (chars : List Char) :
        (chars.dropWhile p).length ≤ chars.length :=
      (List.dropWhile_sublist p).length_le
    simp only [List.length_cons]
    grind

/-- Reads a double-quoted literal. -/
def readQuoted : List Char → Option (List Piece × List Char)
  | '"' :: rest => readQuotedBody rest
  | _ => none

/-! ## Reading pieces -/

/-- What a literal cannot hold as plain text: its quote, the backslash and line ends. -/
def unquotable : List Char :=
  '"' :: '\\' :: lineEnds

/-- A character that means nothing special is read as it stands. -/
theorem readQuotedBody_cons {c : Char} (hc : c ∉ unquotable) (hdollar : c ≠ '$')
    (rest : List Char) :
    readQuotedBody (c :: rest) =
      ahead [.plain (String.singleton c)] (readQuotedBody rest) := by
  simp only [unquotable, List.mem_cons, not_or] at hc
  obtain ⟨hquote, hbackslash, hline⟩ := hc
  rw [readQuotedBody.eq_7 c rest hquote (fun h _ => hbackslash h) (fun _ _ h _ => hbackslash h)
    (fun _ h _ => hdollar h) hdollar]
  exact if_neg (by simpa [lineEnds] using hline)

/-- Plain text is read character by character, whatever follows it. -/
theorem readQuotedBody_plain {text : String} (htext : Avoids unquotable text.toList)
    (rest : List Char) :
    readQuotedBody ((Piece.plain text).chars ++ rest) =
      ahead (Piece.plain text).letters (readQuotedBody rest) := by
  have hchars : ∀ chars : List Char, Avoids unquotable chars →
      readQuotedBody (escapeDollars chars ++ rest) =
        ahead (chars.map fun c => .plain (String.singleton c)) (readQuotedBody rest) := by
    intro chars hchars
    induction chars with
    | nil => simp [escapeDollars]
    | cons c chars ih =>
        rw [avoids_cons] at hchars
        rw [escapeDollars, List.flatMap_cons, ← escapeDollars, List.append_assoc]
        split
        · rename_i hdollar
          subst hdollar
          rw [List.cons_append, List.singleton_append, readQuotedBody, ih hchars.2, ahead_ahead]
          rfl
        · rename_i hdollar
          rw [List.singleton_append, readQuotedBody_cons hchars.1 hdollar, ih hchars.2,
            ahead_ahead]
          rfl
  exact hchars text.toList htext

/-- A name in braces is read, whatever follows it. -/
theorem readQuotedBody_braced {name : String} (hname : isIdentifier name = true)
    (rest : List Char) :
    readQuotedBody ('$' :: '{' :: (name.toList ++ '}' :: rest)) =
      ahead [.value name] (readQuotedBody rest) := by
  have hbrace : Avoids ['}'] name.toList := avoids_of_isIdentifier hname (by decide)
  have hrun : ∀ c ∈ name.toList, (c != '}') = true := fun c hc => by simpa using hbrace c hc
  have hstop : ∀ c ∈ ('}' :: rest).head?, (c != '}') = false := by simp
  obtain ⟨htake, hdrop⟩ := takeWhile_and_dropWhile_append hrun hstop
  rw [readQuotedBody, htake, hdrop, String.ofList_toList, List.drop_one, List.tail_cons]
  exact if_pos ⟨by simp, hname⟩

/-- A name without braces is read, if what follows cannot continue it. -/
theorem readQuotedBody_bare {name : String} (hname : isIdentifier name = true)
    (hdollar : '$' ∉ name.toList) {rest : List Char}
    (hrest : ∀ c ∈ rest.head?, isBareNameRest c = false) :
    readQuotedBody ('$' :: (name.toList ++ rest)) =
      ahead [.value name] (readQuotedBody rest) := by
  have hrun : ∀ c ∈ name.toList, isBareNameRest c = true := by
    intro c hc
    have hne : c ≠ '$' := by
      rintro rfl
      exact hdollar hc
    simp [isBareNameRest, isIdentifierRest_of_mem hname hc, hne]
  have hbrace : ∀ chars, name.toList ++ rest = '{' :: chars → False := by
    intro chars hchars
    rcases exists_cons_of_isIdentifier hname with ⟨c, further, hfirst, hc, -⟩
    rw [hfirst, List.cons_append, List.cons.injEq] at hchars
    rw [hchars.1] at hc
    revert hc
    decide
  obtain ⟨htake, hdrop⟩ := takeWhile_and_dropWhile_append hrun hrest
  rw [readQuotedBody.eq_6 _ hbrace, htake, hdrop, String.ofList_toList]
  exact if_pos hname

/-- An interpolated variable is read as far as its name goes, if what follows cannot continue
it. -/
theorem readQuotedBody_value {name : String} (hname : isIdentifier name = true)
    {rest : List Char} (hrest : ∀ c ∈ rest.head?, isBareNameRest c = false) :
    readQuotedBody ((Piece.value name).chars ++ rest) =
      ahead (Piece.value name).letters (readQuotedBody rest) := by
  rw [Piece.chars, Piece.letters]
  split
  · rw [List.cons_append, List.cons_append, List.append_assoc, List.singleton_append,
      readQuotedBody_braced hname]
  · rename_i hdollar
    rw [List.cons_append, readQuotedBody_bare hname hdollar hrest]

/-! ## Interpolations -/

/-- Pieces were read behind others if these were. -/
theorem ahead_eq_some_iff {first pieces : List Piece} {rest : List Char}
    {found : Option (List Piece × List Char)} :
    ahead first found = some (pieces, rest) ↔
      ∃ others, found = some (others, rest) ∧ pieces = first ++ others := by
  cases found with
  | none => simp [ahead]
  | some pair =>
      rcases pair with ⟨others, behind⟩
      simp only [ahead, Option.map_some, Option.some.injEq, Prod.mk.injEq]
      constructor
      · rintro ⟨rfl, rfl⟩
        exact ⟨others, ⟨rfl, rfl⟩, rfl⟩
      · rintro ⟨others, ⟨rfl, rfl⟩, rfl⟩
        exact ⟨rfl, rfl⟩

/-- The names in what is read of a literal are those that the literal interpolates. -/
theorem interpolations_of_readQuotedBody {chars rest : List Char} {pieces : List Piece}
    (h : readQuotedBody chars = some (pieces, rest)) :
    interpolations chars = pieces.filterMap Piece.name? := by
  fun_induction readQuotedBody chars generalizing pieces with
  | case1 => simp at h
  | case2 behind =>
      cases h
      rw [interpolations]
      rfl
  | case3 => simp at h
  | case4 c behind ih =>
      rcases ahead_eq_some_iff.mp h with ⟨others, hothers, rfl⟩
      rw [interpolations, ih hothers]
      rfl
  | case5 behind hname ih =>
      rcases ahead_eq_some_iff.mp h with ⟨others, hothers, rfl⟩
      rcases List.eq_append_cons_of_mem hname.1 with ⟨before, after, hbehind, hbefore⟩
      have hbrace : behind.dropWhile (· != '}') = '}' :: after := by
        rw [hbehind, List.dropWhile_append_of_pos]
        · simp
        · intro c hc
          rw [bne_iff_ne]
          rintro rfl
          exact hbefore hc
      have hinner := ih hothers
      rw [hbrace, List.drop_one, List.tail_cons] at hinner
      rw [interpolations.eq_4, hbrace, interpolations_cons (by decide), hinner]
      rfl
  | case6 => simp at h
  | case7 behind hbrace hname ih =>
      rcases ahead_eq_some_iff.mp h with ⟨others, hothers, rfl⟩
      rw [interpolations.eq_5 _ hbrace, ih hothers]
      rfl
  | case8 => simp at h
  | case9 => simp at h
  | case10 c behind hquote hbackslash hescape hbrace hdollar hline ih =>
      rcases ahead_eq_some_iff.mp h with ⟨others, hothers, rfl⟩
      rw [interpolations.eq_6 c behind hquote hescape hbrace hdollar, ih hothers]
      rfl

end Memberwise.Dart
