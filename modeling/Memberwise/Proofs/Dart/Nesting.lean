import Memberwise.Proofs.Dart.Vocabulary

/-!
# Brackets in source code

A lexer that skips literals and matches brackets.  What a piece of code does to the brackets
that are open does not depend on those around it, so pieces can be put together.

Main definitions:

- {lit}`step` and {lit}`scan`: the lexer.
- {lit}`Balanced`: whether a text ends outside of literals with all brackets matched.
- {lit}`Leads`: which brackets a piece of code closes, and which it leaves open.

Main results:

- Theorem {lit}`scan_within`: the lexer does not look at the brackets around a text.
- Theorem {lit}`leads_singleQuoted`: a literal matches its quotes, whatever text it denotes.
- Theorem {lit}`leads_text`: an expression matches its brackets if its words do.
-/

namespace Memberwise.Dart

open Memberwise.Text

/-! ## The lexer -/

/-- Where the lexer is. -/
inductive Place where
  | code
  /-- In a literal that a quote ends. -/
  | literal (quote : Char)
  /-- Behind a backslash in a literal. -/
  | escape (quote : Char)
deriving DecidableEq, Repr

/-- What the lexer keeps in mind. -/
structure LexerState where
  place : Place
  /-- The brackets that are still to be closed, the innermost one first. -/
  pending : List Char
deriving DecidableEq, Repr

/-- The bracket that closes a bracket. -/
def closer? : Char → Option Char
  | '(' => some ')'
  | '[' => some ']'
  | '{' => some '}'
  | _ => none

/-- The state after a closing bracket: only the innermost bracket can be closed. -/
def close (bracket : Char) : List Char → Option LexerState
  | [] => none
  | expected :: pending => if bracket = expected then some ⟨.code, pending⟩ else none

/-- One step of the lexer outside of literals. -/
def stepCode (pending : List Char) (c : Char) : Option LexerState :=
  if c ∈ ['\'', '"'] then some ⟨.literal c, pending⟩
  else if c ∈ [')', ']', '}'] then close c pending
  else some ⟨.code, (closer? c).toList ++ pending⟩

/-- One step of the lexer.  It fails at a closing bracket that closes nothing. -/
def step (state : LexerState) (c : Char) : Option LexerState :=
  match state.place with
  | .code => stepCode state.pending c
  | .literal quote =>
      if c = '\\' then some ⟨.escape quote, state.pending⟩
      else if c = quote then some ⟨.code, state.pending⟩
      else some state
  | .escape quote => some ⟨.literal quote, state.pending⟩

/-- The run of the lexer over a text. -/
def scan (state : LexerState) (text : List Char) : Option LexerState :=
  text.foldlM step state

/-- Whether a text ends outside of literals, with all its brackets nested and closed. -/
def Balanced (text : List Char) : Prop :=
  scan ⟨.code, []⟩ text = some ⟨.code, []⟩

/-- Whether a text, with some brackets pending, is outside of literals in the end and leaves
other brackets pending. -/
def Leads (text before after : List Char) : Prop :=
  scan ⟨.code, before⟩ text = some ⟨.code, after⟩

instance (text before after : List Char) : Decidable (Leads text before after) :=
  inferInstanceAs (Decidable (_ = _))

theorem scan_cons (state : LexerState) (c : Char) (text : List Char) :
    scan state (c :: text) = (step state c).bind (scan · text) :=
  List.foldlM_cons

/-- Texts are scanned one after another. -/
theorem scan_append (state : LexerState) (left right : List Char) :
    scan state (left ++ right) = (scan state left).bind (scan · right) :=
  List.foldlM_append

/-! ## Brackets around a text -/

/-- A closing bracket does not look at the brackets around the one that it closes. -/
theorem close_within {place : Place} {before after : List Char} {c : Char}
    (h : close c before = some ⟨place, after⟩) (outer : List Char) :
    close c (before ++ outer) = some ⟨place, after ++ outer⟩ := by
  cases before with
  | nil => contradiction
  | cons expected before =>
      rw [close] at h
      split at h
      · rename_i hexpected
        cases h
        rw [List.cons_append, close, if_pos hexpected]
      · contradiction

/-- A step does not look at the brackets around those that it closes. -/
theorem step_within {place place' : Place} {before after : List Char} {c : Char}
    (h : step ⟨place, before⟩ c = some ⟨place', after⟩) (outer : List Char) :
    step ⟨place, before ++ outer⟩ c = some ⟨place', after ++ outer⟩ := by
  cases place with
  | code =>
      change stepCode before c = _ at h
      change stepCode (before ++ outer) c = _
      unfold stepCode at h ⊢
      split at h
      · rename_i hquote
        cases h
        rw [if_pos hquote]
      · rename_i hquote
        rw [if_neg hquote]
        split at h
        · rename_i hclosing
          rw [if_pos hclosing]
          exact close_within h outer
        · rename_i hclosing
          cases h
          rw [if_neg hclosing, List.append_assoc]
  | literal quote =>
      unfold step at h ⊢
      dsimp only at h ⊢
      split at h
      · rename_i hbackslash
        cases h
        rw [if_pos hbackslash]
      · rename_i hbackslash
        rw [if_neg hbackslash]
        split at h
        · rename_i hquote
          cases h
          rw [if_pos hquote]
        · rename_i hquote
          cases h
          rw [if_neg hquote]
  | escape quote =>
      cases h
      rfl

/-- The lexer does not look at the brackets around a text. -/
theorem scan_within {text : List Char} {place place' : Place} {before after : List Char}
    (h : scan ⟨place, before⟩ text = some ⟨place', after⟩) (outer : List Char) :
    scan ⟨place, before ++ outer⟩ text = some ⟨place', after ++ outer⟩ := by
  induction text generalizing place before with
  | nil =>
      cases h
      rfl
  | cons c text ih =>
      rw [scan_cons, Option.bind_eq_some_iff] at h
      rcases h with ⟨⟨between, pending⟩, hstep, hrest⟩
      rw [scan_cons, step_within hstep outer, Option.bind_some]
      exact ih hrest

namespace Leads

variable {text left right before after : List Char}

/-- Pieces of code can be put together. -/
theorem append {between : List Char} (hleft : Leads left before between)
    (hright : Leads right between after) : Leads (left ++ right) before after := by
  rw [Leads, scan_append, hleft, Option.bind_some]
  exact hright

/-- A piece of code works inside of other brackets. -/
theorem within (h : Leads text before after) (outer : List Char) :
    Leads text (before ++ outer) (after ++ outer) :=
  scan_within h outer

/-- A piece of code that closes what it opens leaves any brackets as they are. -/
theorem leave (h : Leads text [] []) (pending : List Char) : Leads text pending pending :=
  h.within pending

/-- A piece of code that closes what it opens can stand behind any other. -/
theorem append_closed (hleft : Leads left before after) (htext : Leads text [] []) :
    Leads (left ++ text) before after :=
  hleft.append (htext.leave after)

/-- A piece of code that closes what it opens can stand inside of some brackets. -/
theorem enclose (brackets : List Char) (hleft : Leads left before brackets)
    (htext : Leads text [] []) (hright : Leads right brackets after) :
    Leads (left ++ text ++ right) before after :=
  (hleft.append_closed htext).append hright

end Leads

/-! ## Names -/

/-- The characters that mean something outside of literals. -/
def significant : List Char :=
  ['\'', '"', '(', ')', '[', ']', '{', '}']

/-- Text without quotes and brackets leaves the brackets as they are. -/
theorem leads_of_avoids {text : List Char} (h : Avoids significant text) :
    Leads text [] [] := by
  induction text with
  | nil => rfl
  | cons c text ih =>
      rw [avoids_cons] at h
      have hstep : step ⟨.code, []⟩ c = some ⟨.code, []⟩ := by
        have hc := h.1
        simp only [significant, List.mem_cons, List.not_mem_nil, or_false, not_or] at hc
        simp [step, stepCode, closer?, hc]
      rw [Leads, scan_cons, hstep, Option.bind_some]
      exact ih h.2

/-- An identifier leaves the brackets as they are. -/
theorem leads_of_isIdentifier {name : String} (h : isIdentifier name = true) :
    Leads name.toList [] [] :=
  leads_of_avoids (avoids_of_isIdentifier h (by decide))

/-! ## Literals -/

/-- A backslash in a literal takes the next character out. -/
theorem scan_literal_escape (quote c : Char) (pending text : List Char) :
    scan ⟨.literal quote, pending⟩ ('\\' :: c :: text) =
      scan ⟨.literal quote, pending⟩ text :=
  rfl

/-- A character that is neither a backslash nor the quote keeps the lexer in a literal. -/
theorem scan_literal_cons {quote c : Char} (hbackslash : c ≠ '\\') (hquote : c ≠ quote)
    (pending text : List Char) :
    scan ⟨.literal quote, pending⟩ (c :: text) = scan ⟨.literal quote, pending⟩ text := by
  rw [scan_cons, step]
  dsimp only
  rw [if_neg hbackslash, if_neg hquote, Option.bind_some]

/-- What a character is written as keeps the lexer in a literal. -/
theorem scan_escaped (c : Char) (pending rest : List Char) :
    scan ⟨.literal '\'', pending⟩ (escaped c ++ rest) = scan ⟨.literal '\'', pending⟩ rest := by
  unfold escaped
  split
  · rw [List.cons_append, List.singleton_append, scan_literal_escape]
  · rename_i hspecial
    rw [not_or, not_or] at hspecial
    split
    · rw [List.cons_append, List.singleton_append, scan_literal_escape]
    · rw [List.singleton_append, scan_literal_cons hspecial.1 hspecial.2.1]

/-- The characters that denote a text keep the lexer in a literal. -/
theorem scan_flatMap_escaped (text pending rest : List Char) :
    scan ⟨.literal '\'', pending⟩ (text.flatMap escaped ++ rest) =
      scan ⟨.literal '\'', pending⟩ rest := by
  induction text with
  | nil => rfl
  | cons c text ih => rw [List.flatMap_cons, List.append_assoc, scan_escaped, ih]

/-- A literal leaves the brackets as they are, whatever text it denotes. -/
theorem leads_singleQuoted (text : String) : Leads (singleQuoted text).toList [] [] := by
  have hopening : step ⟨.code, []⟩ '\'' = some ⟨.literal '\'', []⟩ := by decide
  rw [Leads, singleQuoted, String.toList_ofList, singleQuotedChars, scan_cons, hopening,
    Option.bind_some, scan_flatMap_escaped]
  rfl

/-- The text that a piece shows or the name that it interpolates. -/
def Piece.source : Piece → String
  | plain text => text
  | value name => name

/-- Characters that are neither backslashes nor quotes keep the lexer in a literal. -/
theorem scan_literal_append {run : List Char} (hrun : Avoids ['"', '\\'] run)
    (pending rest : List Char) :
    scan ⟨.literal '"', pending⟩ (run ++ rest) = scan ⟨.literal '"', pending⟩ rest := by
  induction run with
  | nil => rfl
  | cons c run ih =>
      rw [avoids_cons] at hrun
      have hc := hrun.1
      simp only [List.mem_cons, List.not_mem_nil, or_false, not_or] at hc
      rw [List.cons_append, scan_literal_cons hc.2 hc.1, ih hrun.2]

/-- Text with backslashes in front of its dollar signs keeps the lexer in a literal. -/
theorem scan_escapeDollars {text : List Char} (htext : Avoids ['"', '\\'] text)
    (pending rest : List Char) :
    scan ⟨.literal '"', pending⟩ (escapeDollars text ++ rest) =
      scan ⟨.literal '"', pending⟩ rest := by
  induction text with
  | nil => rfl
  | cons c text ih =>
      rw [avoids_cons] at htext
      rw [escapeDollars, List.flatMap_cons, ← escapeDollars, List.append_assoc]
      split
      · rw [List.cons_append, List.singleton_append, scan_literal_escape, ih htext.2]
      · rw [scan_literal_append (by simpa using htext.1), ih htext.2]

/-- A piece without quotes and backslashes keeps the lexer in a literal. -/
theorem scan_piece {piece : Piece} (h : Avoids ['"', '\\'] piece.source.toList)
    (pending rest : List Char) :
    scan ⟨.literal '"', pending⟩ (piece.chars ++ rest) =
      scan ⟨.literal '"', pending⟩ rest := by
  cases piece with
  | plain text => exact scan_escapeDollars h pending rest
  | value name =>
      have hname : Avoids ['"', '\\'] name.toList := h
      rw [Piece.chars]
      split
      · have hbraces : Avoids ['"', '\\'] ('$' :: '{' :: (name.toList ++ ['}'])) := by
          rw [avoids_cons, avoids_cons, avoids_append]
          exact ⟨by decide, by decide, hname, by decide⟩
        exact scan_literal_append hbraces pending rest
      · have hdollar : Avoids ['"', '\\'] ('$' :: name.toList) := by
          rw [avoids_cons]
          exact ⟨by decide, hname⟩
        exact scan_literal_append hdollar pending rest

/-- Pieces without quotes and backslashes keep the lexer in a literal. -/
theorem scan_pieces {pieces : List Piece}
    (h : ∀ piece ∈ pieces, Avoids ['"', '\\'] piece.source.toList)
    (pending rest : List Char) :
    scan ⟨.literal '"', pending⟩ (pieces.flatMap Piece.chars ++ rest) =
      scan ⟨.literal '"', pending⟩ rest := by
  induction pieces with
  | nil => rfl
  | cons piece pieces ih =>
      rw [List.forall_mem_cons] at h
      rw [List.flatMap_cons, List.append_assoc, scan_piece h.1, ih h.2]

/-- A literal with interpolation leaves the brackets as they are, if its pieces have no quotes
and backslashes. -/
theorem leads_doubleQuoted {pieces : List Piece}
    (h : ∀ piece ∈ pieces, Avoids ['"', '\\'] piece.source.toList) :
    Leads (doubleQuoted pieces).toList [] [] := by
  have hopening : step ⟨.code, []⟩ '"' = some ⟨.literal '"', []⟩ := by decide
  rw [Leads, doubleQuoted, String.toList_ofList, scan_cons, hopening, Option.bind_some,
    scan_pieces h]
  rfl

/-! ## Types and expressions -/

/-- A type leaves the brackets as they are if its words do. -/
theorem leads_typeText {type : DartType}
    (h : ∀ word ∈ type.words, Leads word.text.toList [] []) : Leads type.text.toList [] [] := by
  have hmark : ∀ nullable, Leads (DartType.nullMark nullable).toList [] [] := by decide
  unfold DartType.words at h
  rw [List.forall_mem_map] at h
  induction type with
  | scalar name nullable =>
      have hname : Leads name.name.toList [] [] := by cases name <;> decide
      rw [DartType.text, String.toList_append]
      exact hname.append (hmark nullable)
  | list element nullable ih =>
      have hlist : Leads ("List<" ++ element.text ++ ">").toList [] [] := by
        rw [String.toList_append, String.toList_append]
        exact Leads.enclose [] (by decide) (ih h) (by decide)
      rw [DartType.text, String.toList_append]
      exact hlist.append (hmark nullable)
  | map key value nullable ihKey ihValue =>
      rw [DartType.modelNames, List.forall_mem_append] at h
      have hkey : Leads ("Map<" ++ key.text ++ ", ").toList [] [] := by
        rw [String.toList_append, String.toList_append]
        exact Leads.enclose [] (by decide) (ihKey h.1) (by decide)
      have hmap : Leads ("Map<" ++ key.text ++ ", " ++ value.text ++ ">").toList [] [] := by
        rw [String.toList_append, String.toList_append]
        exact Leads.enclose [] hkey (ihValue h.2) (by decide)
      rw [DartType.text, String.toList_append]
      exact hmap.append (hmark nullable)
  | model name nullable =>
      rw [DartType.text, String.toList_append]
      exact (h name (by simp [DartType.modelNames])).append (hmark nullable)

/-- A forwarded key mapper leaves the brackets as they are if its words do. -/
theorem leads_forwarded {keyMapper : Option String}
    (h : ∀ word ∈ forwardedWords keyMapper, Leads word.text.toList [] []) :
    ∀ name ∈ keyMapper, Leads (Expression.forwarded name).toList [] [] := by
  intro name hname
  cases hname
  have hword : Leads name.toList [] [] := h (.name name) (by simp [forwardedWords])
  have hcolon : Leads ": ".toList [] [] := by decide
  rw [Expression.forwarded, String.toList_append, String.toList_append]
  exact (hword.append hcolon).append hword

/-- An expression leaves the brackets as they are if its words do. -/
theorem leads_text {expression : Expression}
    (h : ∀ word ∈ expression.words, Leads word.text.toList [] []) :
    Leads expression.text.toList [] [] := by
  have hmark : ∀ nullAware, Leads (Expression.accessMark nullAware).toList [] [] := by decide
  induction expression with
  | reference name => exact h (.name name) (by simp [Expression.words])
  | literal text => exact leads_singleQuoted text
  | apply function argument ih =>
      rw [Expression.words, List.forall_mem_cons] at h
      have hopening : Leads (function ++ "(").toList [] [')'] := by
        rw [String.toList_append]
        exact h.1.append (by decide)
      rw [Expression.text, String.toList_append, String.toList_append]
      exact Leads.enclose [')'] hopening (ih h.2) (by decide)
  | index map key ihMap ihKey =>
      rw [Expression.words, List.forall_mem_append] at h
      have hopening : Leads (map.text ++ "[").toList [] [']'] := by
        rw [String.toList_append]
        exact (ihMap h.1).append (by decide)
      rw [Expression.text, String.toList_append, String.toList_append]
      exact Leads.enclose [']'] hopening (ihKey h.2) (by decide)
  | cast operand type ih =>
      rw [Expression.words, List.forall_mem_append] at h
      have hoperand : Leads (operand.text ++ " as ").toList [] [] := by
        rw [String.toList_append]
        exact (ih h.1).append (by decide)
      rw [Expression.text, String.toList_append]
      exact hoperand.append (leads_typeText h.2)
  | parenthesized inner ih =>
      rw [Expression.text, String.toList_append, String.toList_append]
      exact Leads.enclose [')'] (by decide) (ih h) (by decide)
  | mapElements target nullAware element body ihTarget ihBody =>
      rw [Expression.words, List.forall_mem_append, List.forall_mem_cons] at h
      have htarget : Leads (target.text ++ Expression.accessMark nullAware ++ "map((").toList
          [] [')', ')'] := by
        rw [String.toList_append, String.toList_append]
        exact ((ihTarget h.1).append (hmark nullAware)).append (by decide)
      have hparameter : Leads (target.text ++ Expression.accessMark nullAware ++ "map((" ++
          element ++ ") => ").toList [] [')'] := by
        rw [String.toList_append, String.toList_append]
        exact Leads.enclose [')', ')'] htarget h.2.1 (by decide)
      rw [Expression.text, String.toList_append, String.toList_append]
      exact Leads.enclose [')'] hparameter (ihBody h.2.2) (by decide)
  | mapValues target nullAware key value body ihTarget ihBody =>
      rw [Expression.words, List.forall_mem_append, List.forall_mem_cons, List.forall_mem_cons,
        List.forall_mem_cons] at h
      obtain ⟨hwords, hkey, hvalue, -, hbody⟩ := h
      have htarget : Leads (target.text ++ Expression.accessMark nullAware ++ "map((").toList
          [] [')', ')'] := by
        rw [String.toList_append, String.toList_append]
        exact ((ihTarget hwords).append (hmark nullAware)).append (by decide)
      have hparameters : Leads (target.text ++ Expression.accessMark nullAware ++ "map((" ++
          key ++ ", " ++ value ++ ") => MapEntry(").toList [] [')', ')'] := by
        rw [String.toList_append, String.toList_append, String.toList_append, String.toList_append]
        exact Leads.enclose [')', ')'] (Leads.enclose [')', ')'] htarget hkey (by decide)) hvalue
          (by decide)
      rw [Expression.text, String.toList_append, String.toList_append, String.toList_append,
        String.toList_append]
      exact Leads.enclose [')', ')'] (Leads.enclose [')', ')'] hparameters hkey (by decide))
        (ihBody hbody) (by decide)
  | toMap target nullAware method keyMapper ih =>
      rw [Expression.words, List.forall_mem_append, List.forall_mem_cons] at h
      obtain ⟨htarget, hmethod, hmapper⟩ := h
      have hargument : Leads ((keyMapper.map Expression.forwarded).getD "").toList [] [] := by
        cases keyMapper with
        | none => decide
        | some name => exact leads_forwarded hmapper name rfl
      have hopening : Leads (target.text ++ Expression.accessMark nullAware ++ method ++
          "(").toList [] [')'] := by
        rw [String.toList_append, String.toList_append, String.toList_append]
        exact Leads.enclose [] ((ih htarget).append (hmark nullAware)) hmethod (by decide)
      rw [Expression.text, String.toList_append, String.toList_append]
      exact Leads.enclose [')'] hopening hargument (by decide)
  | fromMap model method source keyMapper ih =>
      rw [Expression.words, List.forall_mem_cons, List.forall_mem_cons,
        List.forall_mem_append] at h
      obtain ⟨hmodel, hmethod, hsource, hmapper⟩ := h
      have hargument : Leads
          ((keyMapper.map fun mapper => ", " ++ Expression.forwarded mapper).getD "").toList
          [] [] := by
        cases keyMapper with
        | none => decide
        | some name =>
            have hcomma : Leads ", ".toList [] [] := by decide
            rw [Option.map_some, Option.getD_some, String.toList_append]
            exact hcomma.append (leads_forwarded hmapper name rfl)
      have hopening : Leads (model ++ "." ++ method ++ "(").toList [] [')'] := by
        rw [String.toList_append, String.toList_append, String.toList_append]
        exact Leads.enclose [] (hmodel.append (by decide)) hmethod (by decide)
      have hcall : Leads (model ++ "." ++ method ++ "(" ++ source.text).toList [] [')'] := by
        rw [String.toList_append]
        exact hopening.append_closed (ih hsource)
      rw [Expression.text, String.toList_append, String.toList_append]
      exact Leads.enclose [')'] hcall hargument (by decide)
  | unlessNull subject body ihSubject ihBody =>
      rw [Expression.words, List.forall_mem_append] at h
      have hguard : Leads (subject.text ++ " == null ? null : ").toList [] [] := by
        rw [String.toList_append]
        exact (ihSubject h.1).append (by decide)
      rw [Expression.text, String.toList_append]
      exact hguard.append (ihBody h.2)

end Memberwise.Dart
