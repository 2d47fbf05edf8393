import Mathlib.Data.List.Basic
import Memberwise.Dart.Expression
import Memberwise.Proofs.Text.Identifiers

/-!
# Reading expressions

A reader for the expressions of conversions.  It follows the grammar of the language as
far as conversions need it: a selector binds tighter than a cast, a cast tighter than a
comparison, and a comparison tighter than a conditional expression.  What is spelled
inside one level of the grammar is read by the level below, or stands in brackets.

Main definitions:

- {lit}`readExpression`: takes an expression from the front of a text.

Main results:

- Theorem {lit}`readName_append`: a name is read as far as it goes.
- Theorem {lit}`readLiteral_flatMap`: the text that a literal denotes is read from it.
-/

namespace Memberwise.Dart

open Memberwise.Text

/-! ## What may follow -/

/-- Whether a text is empty or goes on with one of some characters. -/
def GoesOnWith (allowed rest : List Char) : Prop :=
  ∀ c ∈ rest.head?, c ∈ allowed

/-- The characters that may follow an expression. -/
def expressionEnds : List Char :=
  [')', ']', ',', ':']

/-- The characters that may follow a type. -/
def typeEnds : List Char :=
  '>' :: expressionEnds

/-- The characters that may follow what is neither a cast nor a guard. -/
def operandEnds : List Char :=
  ' ' :: expressionEnds

/-- The characters that may follow a primary expression. -/
def primaryEnds : List Char :=
  '[' :: '.' :: '?' :: operandEnds

/-- The characters that may follow a name. -/
def nameEnds : List Char :=
  '<' :: '>' :: '(' :: primaryEnds

/-- What may follow in one place may follow where more is allowed. -/
theorem GoesOnWith.mono {allowed more rest : List Char} (h : GoesOnWith allowed rest)
    (hmore : allowed.all more.contains = true) : GoesOnWith more rest := by
  intro c hc
  simpa using List.all_eq_true.mp hmore c (h c hc)

/-- A text that begins with a word goes on with its first character. -/
theorem goesOnWith_word (word : String) {allowed : List Char} (rest : List Char)
    (hword : word.toList.head?.any allowed.contains = true) :
    GoesOnWith allowed (word.toList ++ rest) := by
  intro c hc
  cases hchars : word.toList with
  | nil => simp [hchars] at hword
  | cons d chars =>
      rw [hchars] at hc hword
      cases hc
      simpa using hword

/-! ## Words and names -/

/-- Takes fixed characters from the front of a text. -/
def skip (word : String) (chars : List Char) : Option (List Char) :=
  chars.dropPrefix? word.toList

/-- Fixed characters are skipped where they stand. -/
theorem skip_append (word : String) (rest : List Char) :
    skip word (word.toList ++ rest) = some rest := by
  rw [skip, List.dropPrefix?_append_of_beq rest (by simp)]

/-- Fixed characters are not skipped where the text goes on otherwise. -/
theorem skip_eq_none {word : String} {allowed rest : List Char} (h : GoesOnWith allowed rest)
    (hword : word.toList.head?.any (!allowed.contains ·) = true) :
    skip word rest = none := by
  rw [skip]
  cases hchars : word.toList with
  | nil => simp [hchars] at hword
  | cons d chars =>
      cases rest with
      | nil => rfl
      | cons c rest =>
          have hc : c ∈ allowed := h c rfl
          have hd : d ∉ allowed := by simpa [hchars] using hword
          have hbeq : (c == d) = false := by
            rw [beq_eq_false_iff_ne]
            rintro rfl
            exact hd hc
          simp [List.dropPrefix?, hbeq]

/-- Takes an identifier from the front of a text, as long as it can be. -/
def readIdentifier (chars : List Char) : Option (String × List Char) :=
  let name := String.ofList (chars.takeWhile isIdentifierRest)
  if isIdentifier name then some (name, chars.dropWhile isIdentifierRest) else none

/-- An identifier is read as far as it goes, if what follows cannot continue it. -/
theorem readIdentifier_append_of_head? {name : String} (hname : isIdentifier name = true)
    {rest : List Char} (hrest : ∀ c ∈ rest.head?, isIdentifierRest c = false) :
    readIdentifier (name.toList ++ rest) = some (name, rest) := by
  have hspan := takeWhile_and_dropWhile_append (fun c => isIdentifierRest_of_mem hname) hrest
  rw [readIdentifier, hspan.1, hspan.2, String.ofList_toList, if_pos hname]

/-- No character that may follow a name continues it. -/
theorem readIdentifier_append {name : String} (hname : isIdentifier name = true)
    {rest : List Char} (hrest : GoesOnWith nameEnds rest) :
    readIdentifier (name.toList ++ rest) = some (name, rest) := by
  have hends : nameEnds.all (!isIdentifierRest ·) = true := by decide
  refine readIdentifier_append_of_head? hname ?_
  intro c hc
  simpa using List.all_eq_true.mp hends c (hrest c hc)

/-- The words that are no names. -/
def reservedWords : List String :=
  ["assert", "break", "case", "catch", "class", "const", "continue", "default", "do",
    "else", "enum", "extends", "false", "final", "finally", "for", "if", "in", "is",
    "new", "null", "rethrow", "return", "super", "switch", "this", "throw", "true",
    "try", "var", "void", "while", "with"]

/-- Whether a text is a name: an identifier that is not reserved. -/
def IsName (name : String) : Prop :=
  isIdentifier name = true ∧ name ∉ reservedWords

instance (name : String) : Decidable (IsName name) :=
  inferInstanceAs (Decidable (_ ∧ _))

/-- Takes a name from the front of a text, as long as it can be. -/
def readName (chars : List Char) : Option (String × List Char) :=
  (readIdentifier chars).filter fun result => result.1 ∉ reservedWords

/-- A name is read as far as it goes. -/
theorem readName_append {name : String} (hname : IsName name) {rest : List Char}
    (hrest : GoesOnWith nameEnds rest) : readName (name.toList ++ rest) = some (name, rest) := by
  rw [readName, readIdentifier_append hname.1 hrest, Option.filter_some,
    if_pos (by simpa using hname.2)]

/-- No name stands where something begins as no name does. -/
theorem skip_name_append (word : String)
    (hword : word.toList.head?.any (!isIdentifierStart ·) = true) {name : String}
    (hname : IsName name) (rest : List Char) :
    skip word (name.toList ++ rest) = none := by
  rcases exists_cons_of_isIdentifier hname.1 with ⟨c, chars, hchars, hc, _⟩
  have hfirst : GoesOnWith [c] (name.toList ++ rest) := by
    intro d hd
    rw [hchars] at hd
    cases hd
    exact List.mem_singleton_self c
  refine skip_eq_none hfirst ?_
  cases hhead : word.toList.head? with
  | none => simp [hhead] at hword
  | some d =>
      have hd : isIdentifierStart d = false := by simpa [hhead] using hword
      have hne : d ≠ c := by
        rintro rfl
        rw [hc] at hd
        contradiction
      simpa using hne

/-! ## Literals -/

/-- The character that a character behind a backslash stands for.  Escapes of code points
are left out. -/
def unescape : Char → Option Char
  | 'n' => some '\n'
  | 'r' => some '\r'
  | 't' => some '\t'
  | 'b' => some '\x08'
  | 'f' => some '\x0c'
  | 'v' => some '\x0b'
  | 'x' => none
  | 'u' => none
  | c => some c

/-- Takes the rest of a single-quoted literal whose opening quote has been read.  The
literal ends at its closing quote; a line end is no part of it, and a dollar sign that no
backslash precedes would begin an interpolation. -/
def readLiteral : List Char → Option (List Char × List Char)
  | [] => none
  | '\'' :: rest => some ([], rest)
  | '\\' :: c :: rest => do
      let d ← unescape c
      let (text, rest) ← readLiteral rest
      some (d :: text, rest)
  | c :: rest =>
      if c ∈ ['\\', '$', '\n', '\r'] then none
      else do
        let (text, rest) ← readLiteral rest
        some (c :: text, rest)

/-- What a character is written as in a literal is read back.  Only the carriage return is
written as it stands although it is a line end. -/
theorem readLiteral_escaped {c : Char} (hc : c ≠ '\r') (rest : List Char) :
    readLiteral (escaped c ++ rest) =
      (readLiteral rest).map fun result => (c :: result.1, result.2) := by
  unfold escaped
  split
  · rename_i h
    rcases h with rfl | rfl | rfl <;> rw [List.cons_append, List.cons_append] <;>
      cases hrest : readLiteral rest <;> simp [readLiteral, unescape, hrest]
  · split
    · rename_i h
      subst h
      cases hrest : readLiteral rest <;> simp [readLiteral, unescape, hrest]
    · rename_i hspecial hnewline
      simp only [not_or] at hspecial
      cases hrest : readLiteral rest <;>
        simp [readLiteral, hspecial, hnewline, hc, hrest]

/-- The text that a literal denotes is read from the literal. -/
theorem readLiteral_flatMap {text : List Char} (htext : '\r' ∉ text) (rest : List Char) :
    readLiteral (text.flatMap escaped ++ '\'' :: rest) = some (text, rest) := by
  induction text with
  | nil => rfl
  | cons c text ih =>
      rw [List.mem_cons, not_or] at htext
      rw [List.flatMap_cons, List.append_assoc, readLiteral_escaped (Ne.symm htext.1),
        ih htext.2]
      rfl

/-! ## Types -/

/-- Takes a type without its null mark, given a reader for its arguments.  Types that
mention user models are left out, since nothing is cast to them. -/
def readBareType (readArgument : List Char → Option (DartType × List Char))
    (chars : List Char) : Option (DartType × List Char) := do
  let (name, rest) ← readName chars
  if name = "List" then
    let rest ← skip "<" rest
    let (element, rest) ← readArgument rest
    let rest ← skip ">" rest
    some (.list element false, rest)
  else if name = "Map" then
    let rest ← skip "<" rest
    let (key, rest) ← readArgument rest
    let rest ← skip ", " rest
    let (value, rest) ← readArgument rest
    let rest ← skip ">" rest
    some (.map key value false, rest)
  else
    let scalar ← Scalar.ofName? name
    some (.scalar scalar false, rest)

/-- Takes a type from the front of a text, nested at most as deep as some fuel. -/
def readType : Nat → List Char → Option (DartType × List Char)
  | 0, _ => none
  | fuel + 1, chars => do
      let (type, rest) ← readBareType (readType fuel) chars
      match skip "?" rest with
      | some rest => some (type.orNull, rest)
      | none => some (type, rest)

/-! ## Expressions -/

section Expressions

variable (readInner : List Char → Option (Expression × List Char))

/-- Takes a variable or the call of a function. -/
def readNamed (chars : List Char) : Option (Expression × List Char) := do
  let (name, rest) ← readName chars
  match skip "(" rest with
  | some rest =>
      let (argument, rest) ← readInner rest
      let rest ← skip ")" rest
      some (.apply name argument, rest)
  | none => some (.reference name, rest)

/-- Takes a literal, an expression in brackets, a variable or the call of a function. -/
def readPrimary (chars : List Char) : Option (Expression × List Char) :=
  match skip "'" chars, skip "(" chars with
  | some rest, _ => do
      let (text, rest) ← readLiteral rest
      some (.literal (String.ofList text), rest)
  | none, some rest => do
      let (inner, rest) ← readInner rest
      let rest ← skip ")" rest
      some (.parenthesized inner, rest)
  | none, none => readNamed readInner chars

/-- Takes the closure that the members of a collection are mapped by, and what follows
it. -/
def readClosure (target : Expression) (nullAware : Bool) (chars : List Char) :
    Option (Expression × List Char) := do
  let (first, rest) ← readName chars
  match skip ", " rest with
  | none =>
      let rest ← skip ") => " rest
      let (body, rest) ← readInner rest
      let rest ← skip ").toList()" rest
      some (.mapElements target nullAware first body, rest)
  | some rest =>
      let (second, rest) ← readName rest
      let rest ← skip ") => MapEntry(" rest
      let (key, rest) ← readName rest
      let rest ← skip ", " rest
      let (body, rest) ← readInner rest
      let rest ← skip "))" rest
      if key = first then some (.mapValues target nullAware first second body, rest) else none

/-- Takes the value of a named argument, which has to be the variable that is called as the
argument, and the bracket that follows it. -/
def readForwarded (label : String) (chars : List Char) : Option (List Char) := do
  let (name, rest) ← readName chars
  if name = label then skip ")" rest else none

/-- Takes what follows the source in the conversion of a model from a map. -/
def readFromMap (model method : String) (source : Expression) (chars : List Char) :
    Option (Expression × List Char) :=
  match skip ", " chars with
  | none => do
      let rest ← skip ")" chars
      some (.fromMap model method source none, rest)
  | some rest => do
      let (label, rest) ← readName rest
      let rest ← skip ": " rest
      let rest ← readForwarded label rest
      some (.fromMap model method source (some label), rest)

/-- Takes the arguments of the call of a conversion.  The conversion to a map has a named
argument at most; the conversion from a map is called on a class, and has a source. -/
def readArguments (target : Expression) (nullAware : Bool) (method : String)
    (chars : List Char) : Option (Expression × List Char) :=
  match skip ")" chars with
  | some rest => some (.toMap target nullAware method none, rest)
  | none => do
      let (first, rest) ← readInner chars
      match skip ": " rest with
      | some rest =>
          match first with
          | .reference label =>
              let rest ← readForwarded label rest
              some (.toMap target nullAware method (some label), rest)
          | _ => none
      | none =>
          match target, nullAware with
          | .reference model, false => readFromMap model method first rest
          | _, _ => none

/-- Takes the call of a member of a target. -/
def readCall (target : Expression) (nullAware : Bool) (chars : List Char) :
    Option (Expression × List Char) := do
  let (method, rest) ← readName chars
  if method = "map" then
    let rest ← skip "((" rest
    readClosure readInner target nullAware rest
  else
    let rest ← skip "(" rest
    readArguments readInner target nullAware method rest

/-- Takes what may follow a primary expression: an index, the call of a member or the
null-aware call of a member. -/
def readSelector (target : Expression) (chars : List Char) : Option (Expression × List Char) :=
  match skip "[" chars, skip "." chars, skip "?." chars with
  | some rest, _, _ => do
      let (key, rest) ← readInner rest
      let rest ← skip "]" rest
      some (.index target key, rest)
  | _, some rest, _ => readCall readInner target false rest
  | _, _, some rest => readCall readInner target true rest
  | _, _, _ => some (target, chars)

/-- Takes an expression that is neither a cast nor a guard. -/
def readOperand (chars : List Char) : Option (Expression × List Char) := do
  let (target, rest) ← readPrimary readInner chars
  readSelector readInner target rest

end Expressions

/-- Takes an expression from the front of a text, nested at most as deep as some fuel. -/
def readExpression : Nat → List Char → Option (Expression × List Char)
  | 0, _ => none
  | fuel + 1, chars => do
      let (operand, rest) ← readOperand (readExpression fuel) chars
      match skip " as " rest, skip " == null ? null : " rest with
      | some rest, _ =>
          let (type, rest) ← readType (rest.length + 1) rest
          some (.cast operand type, rest)
      | none, some rest =>
          let (body, rest) ← readExpression fuel rest
          some (.unlessNull operand body, rest)
      | none, none => some (operand, rest)

end Memberwise.Dart
