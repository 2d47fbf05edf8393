import Memberwise.Proofs.Dart.Reading

/-!
# Well-formed expressions are read

The spelling of an expression shows its tree, if the tree follows the grammar: where a
tree has a cast, a guard or a closure in front of a selector, its spelling would be read
otherwise.

Main definitions:

- {lit}`Expression.WellFormed`: whether a tree follows the grammar.

Main results:

- Theorem {lit}`readType_text`: a type is read from its spelling.
- Theorem {lit}`readExpression_text`: a well-formed expression is read from its spelling.
-/

namespace Memberwise.Dart

open Memberwise.Text

/-! ## Well-formed trees -/

namespace Expression

/-- Whether an expression is primary: it needs no brackets anywhere. -/
def isPrimary : Expression → Bool
  | reference _ => true
  | literal _ => true
  | apply _ _ => true
  | parenthesized _ => true
  | _ => false

/-- Whether an expression binds tighter than casts and guards. -/
def isOperand : Expression → Bool
  | cast _ _ => false
  | unlessNull _ _ => false
  | _ => true

/-- Whether a tree follows the grammar: its names are names, its keys can be written as
literals, and what stands in front of a selector, a cast or a guard binds tighter. -/
def WellFormed : Expression → Prop
  | reference name => IsName name
  | literal text => '\r' ∉ text.toList
  | apply function argument => IsName function ∧ argument.WellFormed
  | index map key => map.isPrimary = true ∧ map.WellFormed ∧ key.WellFormed
  | cast operand type =>
      operand.isOperand = true ∧ operand.WellFormed ∧ type.modelNames = []
  | parenthesized inner => inner.WellFormed
  | mapElements target _ element body =>
      target.isPrimary = true ∧ target.WellFormed ∧ IsName element ∧ body.WellFormed
  | mapValues target _ key value body =>
      target.isPrimary = true ∧ target.WellFormed ∧ IsName key ∧ IsName value ∧
        body.WellFormed
  | toMap target _ method keyMapper =>
      target.isPrimary = true ∧ target.WellFormed ∧ IsName method ∧ method ≠ "map" ∧
        ∀ name ∈ keyMapper, IsName name
  | fromMap model method source keyMapper =>
      IsName model ∧ IsName method ∧ method ≠ "map" ∧ source.WellFormed ∧
        ∀ name ∈ keyMapper, IsName name
  | unlessNull subject body =>
      subject.isOperand = true ∧ subject.WellFormed ∧ body.WellFormed

end Expression

/-! ## Types -/

section Types

variable {readArgument : List Char → Option (DartType × List Char)}

/-- A scalar is read from its name. -/
theorem readBareType_scalar (scalar : Scalar) {rest : List Char}
    (hrest : GoesOnWith nameEnds rest) :
    readBareType readArgument (scalar.name.toList ++ rest) =
      some (.scalar scalar false, rest) := by
  have hname : IsName scalar.name := by cases scalar <;> decide
  have hlist : scalar.name ≠ "List" := by cases scalar <;> decide
  have hmap : scalar.name ≠ "Map" := by cases scalar <;> decide
  rw [readBareType, readName_append hname hrest]
  simp [hlist, hmap, Scalar.ofName?_name]

/-- A list type is read from its name and its element. -/
theorem readBareType_list {element : DartType}
    (helement : ∀ rest, GoesOnWith typeEnds rest →
      readArgument (element.text.toList ++ rest) = some (element, rest))
    (rest : List Char) :
    readBareType readArgument
        ("List".toList ++ ("<".toList ++ (element.text.toList ++ (">".toList ++ rest)))) =
      some (.list element false, rest) := by
  have hname : IsName "List" := by decide
  have helement' := helement _ (goesOnWith_word ">" rest rfl)
  rw [readBareType, readName_append hname (goesOnWith_word "<" _ rfl)]
  simp only [if_true, skip_append, helement', Option.bind_eq_bind, Option.bind_some]

/-- A map type is read from its name, its key and its value. -/
theorem readBareType_map {key value : DartType}
    (hkey : ∀ rest, GoesOnWith typeEnds rest →
      readArgument (key.text.toList ++ rest) = some (key, rest))
    (hvalue : ∀ rest, GoesOnWith typeEnds rest →
      readArgument (value.text.toList ++ rest) = some (value, rest))
    (rest : List Char) :
    readBareType readArgument
        ("Map".toList ++ ("<".toList ++ (key.text.toList ++ (", ".toList ++
          (value.text.toList ++ (">".toList ++ rest)))))) =
      some (.map key value false, rest) := by
  have hname : IsName "Map" := by decide
  have hne : "Map" ≠ "List" := by decide
  have hkey' := hkey _
    (goesOnWith_word ", " (value.text.toList ++ (">".toList ++ rest)) rfl)
  have hvalue' := hvalue _ (goesOnWith_word ">" rest rfl)
  rw [readBareType, readName_append hname (goesOnWith_word "<" _ rfl)]
  simp only [if_neg hne, if_true, skip_append, hkey', hvalue', Option.bind_eq_bind,
    Option.bind_some]

end Types

/-- A null mark is read behind a type. -/
theorem readType_of_bare {fuel : Nat} {chars rest : List Char} {bare : DartType}
    {nullable : Bool} (hrest : GoesOnWith typeEnds rest)
    (hbare : readBareType (readType fuel) chars =
      some (bare, (DartType.nullMark nullable).toList ++ rest)) :
    readType (fuel + 1) chars = some (if nullable then bare.orNull else bare, rest) := by
  rw [readType, hbare, Option.bind_eq_bind, Option.bind_some]
  cases nullable with
  | true => simp only [DartType.nullMark, if_true, skip_append]
  | false =>
      have hmark : skip "?" rest = none := skip_eq_none hrest rfl
      simp [DartType.nullMark, hmark]

/-- A name may be followed by what follows a type, with or without a null mark in front. -/
theorem goesOnWith_nullMark (nullable : Bool) {rest : List Char}
    (hrest : GoesOnWith typeEnds rest) :
    GoesOnWith nameEnds ((DartType.nullMark nullable).toList ++ rest) := by
  cases nullable with
  | true => exact goesOnWith_word "?" rest rfl
  | false => exact hrest.mono rfl

/-- A type without user models is read from its spelling. -/
theorem readType_text {type : DartType} (hmodels : type.modelNames = []) {fuel : Nat}
    (hfuel : type.text.length < fuel) {rest : List Char} (hrest : GoesOnWith typeEnds rest) :
    readType fuel (type.text.toList ++ rest) = some (type, rest) := by
  induction type generalizing fuel rest with
  | scalar scalar nullable =>
      rcases Nat.exists_eq_succ_of_ne_zero (Nat.ne_zero_of_lt hfuel) with ⟨fuel, rfl⟩
      have hbare :=
        @readBareType_scalar (readType fuel) scalar _ (goesOnWith_nullMark nullable hrest)
      rw [DartType.text, String.toList_append, List.append_assoc, readType_of_bare hrest hbare]
      cases nullable <;> rfl
  | list element nullable ih =>
      rcases Nat.exists_eq_succ_of_ne_zero (Nat.ne_zero_of_lt hfuel) with ⟨fuel, rfl⟩
      have hsplit : "List<" = "List" ++ "<" := rfl
      have hlength : 0 < "List<".length := by decide
      have helement : ∀ rest, GoesOnWith typeEnds rest →
          readType fuel (element.text.toList ++ rest) = some (element, rest) := by
        intro rest hrest
        refine ih hmodels ?_ hrest
        simp only [DartType.text, String.length_append] at hfuel
        omega
      have hbare := readBareType_list helement ((DartType.nullMark nullable).toList ++ rest)
      rw [DartType.text, hsplit]
      simp only [String.toList_append, List.append_assoc]
      rw [readType_of_bare hrest hbare]
      cases nullable <;> rfl
  | map key value nullable ihkey ihvalue =>
      rcases Nat.exists_eq_succ_of_ne_zero (Nat.ne_zero_of_lt hfuel) with ⟨fuel, rfl⟩
      have hsplit : "Map<" = "Map" ++ "<" := rfl
      have hlength : 0 < "Map<".length := by decide
      rw [DartType.modelNames, List.append_eq_nil_iff] at hmodels
      simp only [DartType.text, String.length_append] at hfuel
      have hkey : ∀ rest, GoesOnWith typeEnds rest →
          readType fuel (key.text.toList ++ rest) = some (key, rest) := by
        intro rest hrest
        exact ihkey hmodels.1 (by omega) hrest
      have hvalue : ∀ rest, GoesOnWith typeEnds rest →
          readType fuel (value.text.toList ++ rest) = some (value, rest) := by
        intro rest hrest
        exact ihvalue hmodels.2 (by omega) hrest
      have hbare := readBareType_map hkey hvalue ((DartType.nullMark nullable).toList ++ rest)
      rw [DartType.text, hsplit]
      simp only [String.toList_append, List.append_assoc]
      rw [readType_of_bare hrest hbare]
      cases nullable <;> rfl
  | model name nullable => simp [DartType.modelNames] at hmodels

/-! ## Primary expressions -/

/-- Whether a reader reads the well-formed expressions whose spelling is shorter than some
bound. -/
def ReadsBelow (bound : Nat) (read : List Char → Option (Expression × List Char)) : Prop :=
  ∀ expression : Expression, expression.WellFormed → expression.text.length < bound →
    ∀ rest, GoesOnWith expressionEnds rest →
      read (expression.text.toList ++ rest) = some (expression, rest)

section Expressions

variable {readInner : List Char → Option (Expression × List Char)} {bound : Nat}

/-- Where a name stands, a variable or a call is read. -/
theorem readPrimary_name {name : String} (hname : IsName name) (rest : List Char) :
    readPrimary readInner (name.toList ++ rest) =
      readNamed readInner (name.toList ++ rest) := by
  rw [readPrimary, skip_name_append "'" rfl hname, skip_name_append "(" rfl hname]

/-- A primary expression is read from its spelling. -/
theorem readPrimary_text (hinner : ReadsBelow bound readInner) {expression : Expression}
    (hprimary : expression.isPrimary = true) (hwell : expression.WellFormed)
    (hlength : expression.text.length ≤ bound) {rest : List Char}
    (hrest : GoesOnWith primaryEnds rest) :
    readPrimary readInner (expression.text.toList ++ rest) = some (expression, rest) := by
  cases expression with
  | reference name =>
      have hopen : skip "(" rest = none := skip_eq_none hrest rfl
      rw [Expression.text, readPrimary_name hwell, readNamed,
        readName_append hwell (hrest.mono rfl)]
      simp only [hopen, Option.bind_eq_bind, Option.bind_some]
  | literal text =>
      have htext : (Expression.literal text).text.toList ++ rest =
          "'".toList ++ (text.toList.flatMap escaped ++ '\'' :: rest) := by
        simp [Expression.text, singleQuoted, singleQuotedChars]
      rw [htext, readPrimary, skip_append]
      dsimp only
      rw [readLiteral_flatMap hwell, Option.bind_eq_bind, Option.bind_some, String.ofList_toList]
  | apply function argument =>
      rcases hwell with ⟨hfunction, hargument⟩
      have hopen : 0 < "(".length := by decide
      have hread := hinner argument hargument
        (by simp only [Expression.text, String.length_append] at hlength; omega) _
        (goesOnWith_word ")" rest rfl)
      have htext : (Expression.apply function argument).text.toList ++ rest =
          function.toList ++ ("(".toList ++ (argument.text.toList ++ (")".toList ++ rest))) := by
        simp only [Expression.text, String.toList_append, List.append_assoc]
      rw [htext, readPrimary_name hfunction, readNamed,
        readName_append hfunction (goesOnWith_word "(" _ rfl)]
      simp only [skip_append, hread, Option.bind_eq_bind, Option.bind_some]
  | parenthesized inner =>
      have hopen : 0 < "(".length := by decide
      have hread := hinner inner hwell
        (by simp only [Expression.text, String.length_append] at hlength; omega) _
        (goesOnWith_word ")" rest rfl)
      have htext : (Expression.parenthesized inner).text.toList ++ rest =
          "(".toList ++ (inner.text.toList ++ (")".toList ++ rest)) := by
        simp only [Expression.text, String.toList_append, List.append_assoc]
      have hfirst : GoesOnWith ['('] ("(".toList ++ (inner.text.toList ++ (")".toList ++ rest))) :=
        goesOnWith_word "(" _ rfl
      have hquote : skip "'" ("(".toList ++ (inner.text.toList ++ (")".toList ++ rest))) = none :=
        skip_eq_none hfirst rfl
      rw [htext, readPrimary, hquote, skip_append]
      simp only [skip_append, hread, Option.bind_eq_bind, Option.bind_some]
  | _ => simp [Expression.isPrimary] at hprimary

/-! ## Calls -/

/-- No expression begins with a closing bracket. -/
theorem skip_close_text {expression : Expression} (hwell : expression.WellFormed)
    (rest : List Char) : skip ")" (expression.text.toList ++ rest) = none := by
  induction expression generalizing rest with
  | reference name => exact skip_name_append ")" rfl hwell rest
  | literal text =>
      have hfirst : GoesOnWith ['\''] ((Expression.literal text).text.toList ++ rest) := by
        intro c hc
        simpa [Expression.text, singleQuoted, singleQuotedChars, eq_comm] using hc
      exact skip_eq_none hfirst rfl
  | apply function argument _ =>
      simpa only [Expression.text, String.toList_append, List.append_assoc] using
        skip_name_append ")" rfl hwell.1 _
  | index map key ih _ =>
      simpa only [Expression.text, String.toList_append, List.append_assoc] using ih hwell.2.1 _
  | cast operand type ih =>
      simpa only [Expression.text, String.toList_append, List.append_assoc] using ih hwell.2.1 _
  | parenthesized inner _ =>
      have hfirst : GoesOnWith ['('] ("(".toList ++ (inner.text.toList ++ (")".toList ++ rest))) :=
        goesOnWith_word "(" _ rfl
      simpa only [Expression.text, String.toList_append, List.append_assoc] using
        skip_eq_none hfirst rfl
  | mapElements target nullAware element body ih _ =>
      simpa only [Expression.text, String.toList_append, List.append_assoc] using ih hwell.2.1 _
  | mapValues target nullAware key value body ih _ =>
      simpa only [Expression.text, String.toList_append, List.append_assoc] using ih hwell.2.1 _
  | toMap target nullAware method keyMapper ih =>
      simpa only [Expression.text, String.toList_append, List.append_assoc] using ih hwell.2.1 _
  | fromMap model method source keyMapper _ =>
      simpa only [Expression.text, String.toList_append, List.append_assoc] using
        skip_name_append ")" rfl hwell.1 _
  | unlessNull subject body ih _ =>
      simpa only [Expression.text, String.toList_append, List.append_assoc] using ih hwell.2.1 _

/-- The closure over elements is read. -/
theorem readClosure_element {target body : Expression} {nullAware : Bool} {element : String}
    {rest : List Char} (helement : IsName element)
    (hbody : readInner (body.text.toList ++ (").toList()".toList ++ rest)) =
      some (body, ").toList()".toList ++ rest)) :
    readClosure readInner target nullAware
        (element.toList ++
          (") => ".toList ++ (body.text.toList ++ (").toList()".toList ++ rest)))) =
      some (.mapElements target nullAware element body, rest) := by
  have hend : GoesOnWith [')']
      (") => ".toList ++ (body.text.toList ++ (").toList()".toList ++ rest))) :=
    goesOnWith_word ") => " _ rfl
  have hcomma : skip ", " (") => ".toList ++ (body.text.toList ++ (").toList()".toList ++ rest))) =
      none := skip_eq_none hend rfl
  rw [readClosure, readName_append helement (hend.mono rfl)]
  simp only [hcomma, skip_append, hbody, Option.bind_eq_bind, Option.bind_some]

/-- The closure over entries is read. -/
theorem readClosure_entry {target body : Expression} {nullAware : Bool} {key value : String}
    {rest : List Char} (hkey : IsName key) (hvalue : IsName value)
    (hbody : readInner (body.text.toList ++ ("))".toList ++ rest)) =
      some (body, "))".toList ++ rest)) :
    readClosure readInner target nullAware
        (key.toList ++ (", ".toList ++ (value.toList ++ (") => MapEntry(".toList ++
          (key.toList ++ (", ".toList ++ (body.text.toList ++ ("))".toList ++ rest)))))))) =
      some (.mapValues target nullAware key value body, rest) := by
  rw [readClosure, readName_append hkey (goesOnWith_word ", " _ rfl)]
  simp only [skip_append, readName_append hvalue (goesOnWith_word ") => MapEntry(" _ rfl),
    readName_append hkey (goesOnWith_word ", " _ rfl), hbody, Option.bind_eq_bind,
    Option.bind_some, if_true]

/-- A variable that is passed on is read with the bracket behind it. -/
theorem readForwarded_append {label : String} (hlabel : IsName label) (rest : List Char) :
    readForwarded label (label.toList ++ (")".toList ++ rest)) = some rest := by
  rw [readForwarded, readName_append hlabel (goesOnWith_word ")" _ rfl)]
  simp only [skip_append, Option.bind_eq_bind, Option.bind_some, if_true]

/-- The arguments of the conversion to a map are read. -/
theorem readArguments_toMap (hinner : ReadsBelow bound readInner) {target : Expression}
    {nullAware : Bool} {method : String} {keyMapper : Option String}
    (hname : ∀ name ∈ keyMapper, IsName name) (hlength : ∀ name ∈ keyMapper, name.length < bound)
    (rest : List Char) :
    readArguments readInner target nullAware method
        (((keyMapper.map Expression.forwarded).getD "").toList ++ (")".toList ++ rest)) =
      some (.toMap target nullAware method keyMapper, rest) := by
  cases keyMapper with
  | none =>
      have hempty : "".toList ++ (")".toList ++ rest) = ")".toList ++ rest := rfl
      rw [Option.map_none, Option.getD_none, hempty, readArguments, skip_append]
  | some name =>
      have hlabel : IsName name := hname name rfl
      have hread := hinner (.reference name) hlabel (hlength name rfl)
        (": ".toList ++ (name.toList ++ (")".toList ++ rest))) (goesOnWith_word ": " _ rfl)
      rw [Expression.text] at hread
      simp only [Option.map_some, Option.getD_some, Expression.forwarded, String.toList_append,
        List.append_assoc]
      rw [readArguments, skip_name_append ")" rfl hlabel]
      simp only [hread, skip_append, readForwarded_append hlabel, Option.bind_eq_bind,
        Option.bind_some]

/-- The arguments of the conversion from a map are read. -/
theorem readArguments_fromMap (hinner : ReadsBelow bound readInner) {model method : String}
    {source : Expression} {keyMapper : Option String} (hsource : source.WellFormed)
    (hname : ∀ name ∈ keyMapper, IsName name) (hlength : source.text.length < bound)
    (rest : List Char) :
    readArguments readInner (.reference model) false method
        (source.text.toList ++
          (((keyMapper.map fun mapper => ", " ++ Expression.forwarded mapper).getD "").toList ++
            (")".toList ++ rest))) =
      some (.fromMap model method source keyMapper, rest) := by
  cases keyMapper with
  | none =>
      have hempty : "".toList ++ (")".toList ++ rest) = ")".toList ++ rest := rfl
      have hend : GoesOnWith [')'] (")".toList ++ rest) := goesOnWith_word ")" rest rfl
      have hcolon : skip ": " (")".toList ++ rest) = none := skip_eq_none hend rfl
      have hread := hinner source hsource hlength _ (hend.mono rfl)
      rw [Option.map_none, Option.getD_none, hempty, readArguments, skip_close_text hsource]
      simp only [hread, hcolon, Option.bind_eq_bind, Option.bind_some]
      rw [readFromMap, skip_eq_none hend rfl]
      simp only [skip_append, Option.bind_eq_bind, Option.bind_some]
  | some name =>
      have hlabel : IsName name := hname name rfl
      have hend : GoesOnWith [',']
          (", ".toList ++
            (name.toList ++ (": ".toList ++ (name.toList ++ (")".toList ++ rest))))) :=
        goesOnWith_word ", " _ rfl
      have hcolon : skip ": " (", ".toList ++
          (name.toList ++ (": ".toList ++ (name.toList ++ (")".toList ++ rest))))) = none :=
        skip_eq_none hend rfl
      have hread := hinner source hsource hlength _ (hend.mono rfl)
      simp only [Option.map_some, Option.getD_some, Expression.forwarded, String.toList_append,
        List.append_assoc]
      rw [readArguments, skip_close_text hsource]
      simp only [hread, hcolon, Option.bind_eq_bind, Option.bind_some]
      rw [readFromMap, skip_append]
      simp only [readName_append hlabel (goesOnWith_word ": " _ rfl), skip_append,
        readForwarded_append hlabel, Option.bind_eq_bind, Option.bind_some]

/-! ## Selectors -/

/-- A selector that is called as a map method is read as a closure. -/
theorem readCall_map {target : Expression} {nullAware : Bool} (rest : List Char) :
    readCall readInner target nullAware ("map".toList ++ ("((".toList ++ rest)) =
      readClosure readInner target nullAware rest := by
  have hname : IsName "map" := by decide
  rw [readCall, readName_append hname (goesOnWith_word "((" _ rfl)]
  simp only [if_true, skip_append, Option.bind_eq_bind, Option.bind_some]

/-- A selector that is called otherwise is read as a conversion. -/
theorem readCall_method {target : Expression} {nullAware : Bool} {method : String}
    (hmethod : IsName method) (hne : method ≠ "map") (rest : List Char) :
    readCall readInner target nullAware (method.toList ++ ("(".toList ++ rest)) =
      readArguments readInner target nullAware method rest := by
  rw [readCall, readName_append hmethod (goesOnWith_word "(" _ rfl)]
  simp only [if_neg hne, skip_append, Option.bind_eq_bind, Option.bind_some]

/-- Behind a member access, a call is read. -/
theorem readSelector_access {target : Expression} {nullAware : Bool} (rest : List Char) :
    readSelector readInner target ((Expression.accessMark nullAware).toList ++ rest) =
      readCall readInner target nullAware rest := by
  cases nullAware with
  | false =>
      have hfirst : GoesOnWith ['.'] (".".toList ++ rest) := goesOnWith_word "." rest rfl
      have hindex : skip "[" (".".toList ++ rest) = none := skip_eq_none hfirst rfl
      simp only [readSelector, Expression.accessMark, Bool.false_eq_true, if_false, hindex,
        skip_append]
  | true =>
      have hfirst : GoesOnWith ['?'] ("?.".toList ++ rest) := goesOnWith_word "?." rest rfl
      have hindex : skip "[" ("?.".toList ++ rest) = none := skip_eq_none hfirst rfl
      have hdot : skip "." ("?.".toList ++ rest) = none := skip_eq_none hfirst rfl
      simp only [readSelector, Expression.accessMark, if_true, hindex, hdot, skip_append]

/-- Where an operand is over, no selector is read. -/
theorem readSelector_end {target : Expression} {rest : List Char}
    (hrest : GoesOnWith operandEnds rest) :
    readSelector readInner target rest = some (target, rest) := by
  have hindex : skip "[" rest = none := skip_eq_none hrest rfl
  have hdot : skip "." rest = none := skip_eq_none hrest rfl
  have hnullAware : skip "?." rest = none := skip_eq_none hrest rfl
  simp only [readSelector, hindex, hdot, hnullAware]

/-! ## Operands -/

/-- Behind a primary expression, a selector is read. -/
theorem readOperand_of_primary (hinner : ReadsBelow bound readInner) {target : Expression}
    (hprimary : target.isPrimary = true) (hwell : target.WellFormed)
    (hlength : target.text.length ≤ bound) {rest : List Char}
    (hrest : GoesOnWith primaryEnds rest) :
    readOperand readInner (target.text.toList ++ rest) = readSelector readInner target rest := by
  rw [readOperand, readPrimary_text hinner hprimary hwell hlength hrest, Option.bind_eq_bind,
    Option.bind_some]

/-- Behind a primary expression and a member access, a call is read. -/
theorem readOperand_access (hinner : ReadsBelow bound readInner) {target : Expression}
    (hprimary : target.isPrimary = true) (hwell : target.WellFormed)
    (hlength : target.text.length ≤ bound) (nullAware : Bool) (rest : List Char) :
    readOperand readInner
        (target.text.toList ++ ((Expression.accessMark nullAware).toList ++ rest)) =
      readCall readInner target nullAware rest := by
  have hrest : GoesOnWith primaryEnds ((Expression.accessMark nullAware).toList ++ rest) := by
    cases nullAware with
    | false => exact goesOnWith_word "." rest rfl
    | true => exact goesOnWith_word "?." rest rfl
  rw [readOperand_of_primary hinner hprimary hwell hlength hrest, readSelector_access]

/-- An operand is read from its spelling. -/
theorem readOperand_text (hinner : ReadsBelow bound readInner) {expression : Expression}
    (hoperand : expression.isOperand = true) (hwell : expression.WellFormed)
    (hlength : expression.text.length ≤ bound) {rest : List Char}
    (hrest : GoesOnWith operandEnds rest) :
    readOperand readInner (expression.text.toList ++ rest) = some (expression, rest) := by
  by_cases hprimary : expression.isPrimary = true
  · rw [readOperand_of_primary hinner hprimary hwell hlength (hrest.mono rfl),
      readSelector_end hrest]
  · cases expression with
    | index map key =>
        rcases hwell with ⟨hprimary, hmap, hkey⟩
        simp only [Expression.text, String.toList_append, List.append_assoc, String.length_append]
          at hlength ⊢
        have hopen : 0 < "[".length := by decide
        have hread := hinner key hkey (by omega) _ (goesOnWith_word "]" rest rfl)
        rw [readOperand_of_primary hinner hprimary hmap (by omega)
          (goesOnWith_word "[" _ rfl)]
        simp only [readSelector, skip_append, hread, Option.bind_eq_bind, Option.bind_some]
    | mapElements target nullAware element body =>
        rcases hwell with ⟨hprimary, htarget, helement, hbody⟩
        have hsplit : "map((" = "map" ++ "((" := rfl
        have hmap : 0 < "map((".length := by decide
        simp only [Expression.text, String.length_append] at hlength
        have hread := hinner body hbody (by omega) _
          (goesOnWith_word ").toList()" rest rfl)
        rw [Expression.text, hsplit]
        simp only [String.toList_append, List.append_assoc]
        rw [readOperand_access hinner hprimary htarget (by omega), readCall_map,
          readClosure_element helement hread]
    | mapValues target nullAware key value body =>
        rcases hwell with ⟨hprimary, htarget, hkey, hvalue, hbody⟩
        have hsplit : "map((" = "map" ++ "((" := rfl
        have hmap : 0 < "map((".length := by decide
        simp only [Expression.text, String.length_append] at hlength
        have hread := hinner body hbody (by omega) _ (goesOnWith_word "))" rest rfl)
        rw [Expression.text, hsplit]
        simp only [String.toList_append, List.append_assoc]
        rw [readOperand_access hinner hprimary htarget (by omega), readCall_map,
          readClosure_entry hkey hvalue hread]
    | toMap target nullAware method keyMapper =>
        rcases hwell with ⟨hprimary, htarget, hmethod, hne, hmapper⟩
        have hopen : 0 < "(".length := by decide
        simp only [Expression.text, String.length_append] at hlength
        have hshort : ∀ name ∈ keyMapper, name.length < bound := by
          rintro name rfl
          simp only [Option.map_some, Option.getD_some, Expression.forwarded,
            String.length_append] at hlength
          omega
        rw [Expression.text]
        simp only [String.toList_append, List.append_assoc]
        rw [readOperand_access hinner hprimary htarget (by omega), readCall_method hmethod hne,
          readArguments_toMap hinner hmapper hshort]
    | fromMap model method source keyMapper =>
        rcases hwell with ⟨hmodel, hmethod, hne, hsource, hmapper⟩
        have hopen : 0 < "(".length := by decide
        simp only [Expression.text, String.length_append] at hlength
        have hclass : (Expression.reference model).text.length ≤ bound := by
          rw [Expression.text]
          omega
        have haccess := readOperand_access hinner rfl (show (Expression.reference model).WellFormed
          from hmodel) hclass false
        rw [Expression.text]
        simp only [String.toList_append, List.append_assoc]
        have hdot : Expression.accessMark false = "." := rfl
        rw [Expression.text, hdot] at haccess
        rw [haccess, readCall_method hmethod hne,
          readArguments_fromMap hinner hsource hmapper (by omega)]
    | cast operand type => simp [Expression.isOperand] at hoperand
    | unlessNull subject body => simp [Expression.isOperand] at hoperand
    | _ => simp [Expression.isPrimary] at hprimary

end Expressions

/-! ## Expressions -/

/-- A well-formed expression is read from its spelling. -/
theorem readExpression_text {fuel : Nat} : ReadsBelow fuel (readExpression fuel) := by
  -- what stands inside an expression is shorter, so that the fuel for it is enough
  induction fuel with
  | zero =>
      intro expression _ hlength
      omega
  | succ fuel ih =>
      intro expression hwell hlength rest hrest
      have hbound : expression.text.length ≤ fuel := by omega
      by_cases hoperand : expression.isOperand = true
      · have has : skip " as " rest = none := skip_eq_none hrest rfl
        have hguard : skip " == null ? null : " rest = none := skip_eq_none hrest rfl
        rw [readExpression, readOperand_text ih hoperand hwell hbound (hrest.mono rfl)]
        simp only [has, hguard, Option.bind_eq_bind, Option.bind_some]
      · cases expression with
        | cast operand type =>
            rcases hwell with ⟨hoperand, hwell, hmodels⟩
            simp only [Expression.text, String.length_append] at hbound
            have htype : type.text.length < (type.text.toList ++ rest).length + 1 := by
              rw [List.length_append, String.length_toList]
              omega
            have hread := readOperand_text ih hoperand hwell (by omega)
              (goesOnWith_word " as " (type.text.toList ++ rest) rfl)
            simp only [Expression.text, String.toList_append, List.append_assoc]
            rw [readExpression, hread]
            simp only [skip_append, readType_text hmodels htype (hrest.mono rfl),
              Option.bind_eq_bind, Option.bind_some]
        | unlessNull subject body =>
            rcases hwell with ⟨hoperand, hsubject, hbody⟩
            have hguard : 0 < " == null ? null : ".length := by decide
            simp only [Expression.text, String.length_append] at hbound
            have hread := readOperand_text ih hoperand hsubject (by omega)
              (goesOnWith_word " == null ? null : " (body.text.toList ++ rest) rfl)
            have has : skip " as " (" == null ? null : ".toList ++ (body.text.toList ++ rest)) =
                none := rfl
            have hinner := ih body hbody (by omega) rest hrest
            simp only [Expression.text, String.toList_append, List.append_assoc]
            rw [readExpression, hread]
            simp only [has, skip_append, hinner, Option.bind_eq_bind, Option.bind_some]
        | _ => simp [Expression.isOperand] at hoperand

end Memberwise.Dart
