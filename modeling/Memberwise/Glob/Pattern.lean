/-!
# Patterns

Patterns for file names: any one character, any run of characters, one character of a
class, and, as a component of its own, any run of directories.

Main results:

- Theorem {lit}`matchesName_anyRun_cons`: a run ends at a character or takes it.
- Theorem {lit}`matchesName_cons_cons`: any other token takes one character.
- Theorem {lit}`matchesName_exactly`: a pattern without wildcards matches its own text
  and nothing else.
-/

namespace Memberwise.Glob

/-! ## Patterns and their errors -/

/-- The members of a character class. -/
inductive Specifier where
  | single (c : Char)
  | range (low high : Char)
deriving DecidableEq, Repr

/-- Whether a character is a member of a class. -/
def Specifier.admits (c : Char) : Specifier → Bool
  | single d => c == d
  | range low high => low ≤ c && c ≤ high

/-- A part of a pattern. -/
inductive Token where
  | exactly (c : Char)
  | anyChar
  | anyRun
  | anyDirectories
  | oneOf (specifiers : List Specifier)
  | noneOf (specifiers : List Specifier)
deriving DecidableEq, Repr

/-- A pattern for one name, or for any run of directories. -/
abbrev Pattern := List Token

/-- What is wrong with a pattern. -/
inductive PatternProblem where
  | tooManyStars
  | starsInsideName
  | openClass
deriving DecidableEq, Repr

/-- The wording of a problem. -/
def PatternProblem.message : PatternProblem → String
  | tooManyStars => "wildcards are either regular `*` or recursive `**`"
  | starsInsideName => "recursive wildcards must form a single path component"
  | openClass => "invalid range pattern"

/-- A problem and the index of a character near which it lies. -/
structure PatternError where
  position : Nat
  problem : PatternProblem
deriving DecidableEq, Repr

/-- The wording of a pattern error. -/
def PatternError.message (error : PatternError) : String :=
  "Pattern syntax error near position " ++ Nat.repr error.position ++ ": "
    ++ error.problem.message

/-! ## Reading patterns -/

/-- The members of a class: a hyphen between two characters makes a range. -/
def specifiers : List Char → List Specifier
  | low :: '-' :: high :: rest => .range low high :: specifiers rest
  | c :: rest => .single c :: specifiers rest
  | [] => []

/-- Reads a character class from behind its opening bracket.  The first character is a
member even if it is a bracket itself. -/
def readClass (text : List Char) : Option (Token × List Char) :=
  let (isNegated, text) := match text with
    | '!' :: rest => (true, rest)
    | _ => (false, text)
  match text with
  | [] => none
  | first :: rest =>
      match rest.dropWhile (· != ']') with
      | [] => none
      | _ :: rest' =>
          let members := specifiers (first :: rest.takeWhile (· != ']'))
          some (if isNegated then .noneOf members else .oneOf members, rest')

/-- Whether a component may begin behind a character, or at the start of the text. -/
def atBoundary : Option Char → Bool
  | none => true
  | some c => c == '/'

/-- Reads a pattern from the given index on, behind the given character.  Every token
takes at least one character, so their number is bounded by the first argument. -/
def readTokens : Nat → Nat → Option Char → List Char → Except PatternError Pattern
  | 0, _, _, _ => .ok []
  | _, _, _, [] => .ok []
  | bound + 1, position, previous, c :: rest =>
      if c = '?' then do
        return .anyChar :: (← readTokens bound (position + 1) (some c) rest)
      else if c = '*' then
        let stars := 1 + (rest.takeWhile (· == '*')).length
        let after := rest.dropWhile (· == '*')
        if stars = 1 then do
          return .anyRun :: (← readTokens bound (position + 1) (some c) after)
        else if stars = 2 then
          if atBoundary previous then
            match after with
            | [] => .ok [.anyDirectories]
            | '/' :: more => do
                return .anyDirectories
                  :: (← readTokens bound (position + 3) (some '/') more)
            | _ => .error ⟨position + 2, .starsInsideName⟩
          else .error ⟨position - 1, .starsInsideName⟩
        else .error ⟨position + 2, .tooManyStars⟩
      else if c = '[' then
        match readClass rest with
        | none => .error ⟨position, .openClass⟩
        | some (token, more) => do
            return token
              :: (← readTokens bound (position + 1 + rest.length - more.length) (some ']')
                more)
      else do
        return .exactly c :: (← readTokens bound (position + 1) (some c) rest)

/-- Reads a pattern. -/
def readPattern (text : List Char) : Except PatternError Pattern :=
  readTokens text.length 0 none text

/-! ## Matching names -/

/-- Whether a pattern is the one for any run of directories. -/
def isRecursive (pattern : Pattern) : Bool :=
  pattern.contains .anyDirectories

/-- Whether a token admits a single character. -/
def Token.admits (c : Char) : Token → Bool
  | exactly d => c == d
  | anyChar => true
  | anyRun => false
  | anyDirectories => false
  | oneOf specifiers => specifiers.any (·.admits c)
  | noneOf specifiers => !specifiers.any (·.admits c)

/-- Whether something holds of an end of a name or of a shorter one, for every end, if it
is known of which ends it holds. -/
def holdsOfShorter : List Bool → List Bool
  | [] => []
  | holds :: ends =>
      let shorter := holdsOfShorter ends
      (holds || shorter.headD false) :: shorter

/-- Which ends of a name are matched by a token and what follows it, if it is known which
ends are matched by what follows. -/
def Token.matchedEnds (name : List Char) (following : List Bool) : Token → List Bool
  | anyRun => holdsOfShorter following
  | token =>
      List.zipWith (fun c holds => token.admits c && holds) name following.tail ++ [false]

/-- Which ends of a name a pattern matches, from the whole name to the empty end.  Each
token is compared with each character once. -/
def matchedEnds (name : List Char) : Pattern → List Bool
  | [] => name.map (fun _ => false) ++ [true]
  | token :: pattern => token.matchedEnds name (matchedEnds name pattern)

/-- Whether a pattern matches a name from its first character to its last. -/
def matchesName (pattern : Pattern) (name : List Char) : Bool :=
  (matchedEnds name pattern).headD false

/-! ## The equations of matching -/

/-- There is an answer for every end. -/
theorem length_holdsOfShorter (ends : List Bool) :
    (holdsOfShorter ends).length = ends.length := by
  induction ends with
  | nil => rfl
  | cons holds ends ih => simp [holdsOfShorter, ih]

/-- A token other than the one for runs takes a single character. -/
theorem matchedEnds_token {token : Token} (h : token ≠ .anyRun) (name : List Char)
    (following : List Bool) :
    token.matchedEnds name following =
      List.zipWith (fun c holds => token.admits c && holds) name following.tail
        ++ [false] := by
  cases token with
  | anyRun => contradiction
  | _ => rfl

/-- A name has one end more than it has characters. -/
theorem length_matchedEnds (name : List Char) (pattern : Pattern) :
    (matchedEnds name pattern).length = name.length + 1 := by
  induction pattern with
  | nil => simp [matchedEnds]
  | cons token pattern ih =>
      by_cases h : token = .anyRun
      · simp [matchedEnds, h, Token.matchedEnds, length_holdsOfShorter, ih]
      · simp [matchedEnds, matchedEnds_token h, ih]

/-- The empty name is its only end. -/
theorem matchedEnds_nil (pattern : Pattern) :
    matchedEnds [] pattern = [matchesName pattern []] := by
  have h := length_matchedEnds [] pattern
  unfold matchesName
  match matchedEnds [] pattern, h with
  | [_], _ => rfl

/-- The ends of a name are the name itself and the ends of what follows its first
character. -/
theorem matchedEnds_cons (c : Char) (name : List Char) (pattern : Pattern) :
    matchedEnds (c :: name) pattern =
      matchesName pattern (c :: name) :: matchedEnds name pattern := by
  suffices h : (matchedEnds (c :: name) pattern).tail = matchedEnds name pattern by
    have hlength := length_matchedEnds (c :: name) pattern
    unfold matchesName
    rw [← h]
    cases hends : matchedEnds (c :: name) pattern with
    | nil => simp [hends] at hlength
    | cons holds ends => rfl
  induction pattern with
  | nil => simp [matchedEnds]
  | cons token pattern ih =>
      by_cases h : token = .anyRun
      · simp only [matchedEnds, h, Token.matchedEnds]
        rw [← ih]
        cases matchedEnds (c :: name) pattern <;> simp [holdsOfShorter]
      · simp only [matchedEnds, matchedEnds_token h, ← ih]
        have hlength := length_matchedEnds (c :: name) pattern
        generalize matchedEnds (c :: name) pattern = ends at hlength ⊢
        match ends, hlength with
        | _ :: _ :: _, _ => simp

/-- The empty pattern matches the empty name only. -/
theorem matchesName_nil (name : List Char) : matchesName [] name = name.isEmpty := by
  cases name <;> rfl

/-- A run may be empty. -/
theorem matchesName_anyRun_nil (pattern : Pattern) :
    matchesName (.anyRun :: pattern) [] = matchesName pattern [] := by
  change (holdsOfShorter (matchedEnds [] pattern)).headD false = _
  rw [matchedEnds_nil]
  simp [holdsOfShorter]

/-- A run ends here or takes one more character. -/
theorem matchesName_anyRun_cons (pattern : Pattern) (c : Char) (name : List Char) :
    matchesName (.anyRun :: pattern) (c :: name) =
      (matchesName pattern (c :: name) || matchesName (.anyRun :: pattern) name) := by
  change (holdsOfShorter (matchedEnds (c :: name) pattern)).headD false = _
  rw [matchedEnds_cons]
  rfl

/-- Any other token needs a character. -/
theorem matchesName_cons_nil {token : Token} (h : token ≠ .anyRun) (pattern : Pattern) :
    matchesName (token :: pattern) [] = false := by
  simp [matchesName, matchedEnds, matchedEnds_token h]

/-- Any other token takes the first character if it admits it. -/
theorem matchesName_cons_cons {token : Token} (h : token ≠ .anyRun) (pattern : Pattern)
    (c : Char) (name : List Char) :
    matchesName (token :: pattern) (c :: name) =
      (token.admits c && matchesName pattern name) := by
  change (token.matchedEnds (c :: name) (matchedEnds (c :: name) pattern)).headD false = _
  rw [matchedEnds_token h, matchedEnds_cons, List.tail_cons]
  cases name with
  | nil => simp [matchedEnds_nil]
  | cons d name => simp [matchedEnds_cons]

/-! ## Patterns without wildcards -/

/-- The only name that a pattern without wildcards matches. -/
def literal? : Pattern → Option (List Char)
  | [] => some []
  | .exactly c :: pattern => (literal? pattern).map (c :: ·)
  | _ => none

/-- A pattern without wildcards matches its own text and nothing else. -/
theorem matchesName_exactly (text name : List Char) :
    matchesName (text.map .exactly) name = true ↔ name = text := by
  induction text generalizing name with
  | nil => cases name <;> simp [matchesName_nil]
  | cons c text ih =>
      cases name with
      | nil => simp [matchesName_cons_nil]
      | cons d name => simp [matchesName_cons_cons, Token.admits, ih]

end Memberwise.Glob
