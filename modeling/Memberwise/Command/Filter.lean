import Memberwise.Regex.Reading
import Memberwise.Text.Alphanumeric
import Memberwise.Text.Blank

/-!
# Log filters

A filter decides which events are shown.  It is a list of directives, separated by
commas; of those that fit an event, the most specific one says up to which level such
events are shown.

Main definitions:

- {lit}`Directive`: for which events, and up to which level.
- {lit}`Filter.ofText?`: the reading of a filter.
- {lit}`Filter.shows`: whether an event is shown.
-/

namespace Memberwise.Command

/-! ## Levels -/

/-- How much is shown, from nothing to everything. -/
inductive Level where
  | off
  | error
  | warn
  | info
  | debug
  | trace
deriving DecidableEq, Repr

namespace Level

/-- The rank of a level; each shows what those below it show. -/
def rank : Level → Nat
  | off => 0
  | error => 1
  | warn => 2
  | info => 3
  | debug => 4
  | trace => 5

/-- The level with a rank. -/
def ofRank? : Nat → Option Level
  | 0 => some off
  | 1 => some error
  | 2 => some warn
  | 3 => some info
  | 4 => some debug
  | 5 => some trace
  | _ => none

/-- Reads a number in decimal digits, with or without a plus sign. -/
def readRank (text : List Char) : Option Nat :=
  let digits := match text with
    | '+' :: rest => rest
    | _ => text
  if digits.isEmpty || !digits.all Char.isDigit then none
  else some (digits.foldl (fun value digit => 10 * value + (digit.toNat - '0'.toNat)) 0)

/-- The level with a name, in letters of either case, or with a rank. -/
def ofName? (name : String) : Option Level :=
  match name.map Char.toLower with
  | "off" => some off
  | "error" => some error
  | "warn" => some warn
  | "info" => some info
  | "debug" => some debug
  | "trace" => some trace
  | _ => (readRank name.toList).bind ofRank?

end Level

/-! ## Directives -/

/-- What a filter knows of an event. -/
structure EventTraits where
  level : Level
  /-- The part of the program in which it happens. -/
  target : String
  /-- The names of what it reports. -/
  fields : List String
deriving DecidableEq, Repr

/-- What an event must have for a directive. -/
inductive Condition where
  | always
  | hasField (name : String)
  /-- To lie in a span of time with a name, or in one with a field of a given value.  No
  event of this program lies in such a span. -/
  | insideSpan
deriving DecidableEq, Repr

/-- Whether an event meets a condition. -/
def Condition.isMetBy (event : EventTraits) : Condition → Bool
  | always => true
  | hasField name => event.fields.contains name
  | insideSpan => false

/-- For which events a directive is, and up to which level it shows them. -/
structure Directive where
  /-- The start of the targets that it is for; every target without it. -/
  target : Option String := none
  condition : Condition := .always
  level : Level := .trace
deriving DecidableEq, Repr

namespace Directive

/-- Whether a directive is for an event. -/
def fits (event : EventTraits) (directive : Directive) : Bool :=
  directive.condition.isMetBy event
    && match directive.target with
      | none => true
      | some target => target.toList.isPrefixOf event.target.toList

/-- How much of a target a directive knows. -/
def reach (directive : Directive) : Nat :=
  match directive.target with
  | none => 0
  | some target => target.length + 1

/-- The name of the field that a directive asks for, or nothing. -/
def fieldName (directive : Directive) : String :=
  match directive.condition with
  | .hasField name => name
  | _ => ""

/-- Whether one of two directives for the same event is less specific: it knows less of
the target or, with the same target, asks for no field or for an earlier one. -/
def isBroader (directive other : Directive) : Bool :=
  decide (directive.reach < other.reach)
    || directive.reach == other.reach && decide (directive.fieldName < other.fieldName)

/-! ## Reading directives -/

/-- A character that steers the reading of a directive, and the one that is kept. -/
abbrev Mark := Char × Char

/-- The text that is kept from some marks. -/
def kept (marks : List Mark) : String :=
  String.ofList (marks.map (·.2))

/-- The marks up to a character from a list, and those from it on. -/
def cut (stops : List Char) (marks : List Mark) : List Mark × List Mark :=
  marks.span fun mark => !stops.contains mark.1

/-- The level with a name, or the highest one without a name. -/
def levelOf (name : String) : Option Level :=
  if name = "" then some .trace else Level.ofName? name

/-- Reads the level behind brackets, which may be missing.  The text that is left over
belongs to the last name. -/
def readLevel (leftOver : String) : List Mark → Option Level
  | [] => some .trace
  | ('=', _) :: name => levelOf (kept name ++ leftOver)
  | _ => none

/-- Whether a text is a decimal number, with or without a fraction and an exponent. -/
def isDecimal (text : List Char) : Bool :=
  let (whole, rest) := text.span Char.isDigit
  let (fraction, rest) := match rest with
    | '.' :: rest => rest.span Char.isDigit
    | _ => ([], rest)
  let isEnd := match rest with
    | [] => true
    | mark :: '+' :: digits | mark :: '-' :: digits | mark :: digits =>
        mark.toLower == 'e' && !digits.isEmpty && digits.all Char.isDigit
  (!whole.isEmpty || !fraction.isEmpty) && isEnd

/-- Whether a text is a number, with or without a sign. -/
def isNumber (text : List Char) : Bool :=
  let unsigned := match text with
    | '+' :: rest | '-' :: rest => rest
    | _ => text
  ["inf", "infinity", "nan"].contains (String.ofList (unsigned.map Char.toLower))
    || isDecimal unsigned

/-- Reads the condition that a field sets up.  Its value, which ends at a second equals
sign, is a number or a regular expression. -/
def readCondition (isInSpan : Bool) (field : List Char) : Option Condition :=
  match field.span (· != '=') with
  | (_, _ :: value) =>
      let value := value.takeWhile (· != '=')
      if isNumber value || Regex.isRegex value then some .insideSpan else none
  | (name, []) => some (if isInSpan then .insideSpan else .hasField (String.ofList name))

/-- Reads brackets from behind the opening one, and the level behind them.  They hold the
name of a span, and in braces a field, with or without a value. -/
def readBrackets (target : Option String) (leftOver : String) (marks : List Mark) :
    Option Directive :=
  match cut [']', '{'] marks with
  | (_, (']', _) :: rest) => do return ⟨target, .insideSpan, ← readLevel leftOver rest⟩
  | (span, _ :: rest) =>
      match cut ['}'] rest with
      | ([], _) => none
      | (field, _ :: (']', _) :: rest) => do
          let condition ← readCondition (!span.isEmpty) (kept field).toList
          return ⟨target, condition, ← readLevel leftOver rest⟩
      | _ => none
  | _ => none

/-- Whether a target may begin with a character. -/
def isTargetStart (c : Char) : Bool :=
  Text.isAlphanumeric c || c == '-' || c == ':' || c == '_'

/-- A directive of a single word, which is a level or else a target. -/
def ofWord (word : String) : Directive :=
  match Level.ofName? word with
  | some level => { level := level }
  | none => { target := some word }

/-- Reads a directive: a target, brackets and a level, each of which may be missing.
Blanks around it do not steer the reading, but its names are cut out of the text with its
blanks, at the places that were found without them; so next to blanks a level is not
recognized and a target fits no event. -/
def ofText? (text : String) : Option Directive :=
  let chars := text.toList
  let steering := Text.trim chars
  let marks := steering.zip chars
  let leftOver := String.ofList (chars.drop steering.length)
  match marks with
  | [] => none
  | ('[', _) :: rest => readBrackets none leftOver rest
  | (c, _) :: _ =>
      if !isTargetStart c then none
      else
        match cut ['=', '['] marks with
        | (word, []) => some (ofWord (kept word ++ leftOver))
        | (target, ('[', _) :: rest) => readBrackets (some (kept target)) leftOver rest
        | (target, _ :: level) => do
            let level ← levelOf (kept level ++ leftOver)
            return { target := some (kept target), level := level }

end Directive

/-! ## Filters -/

/-- The directives of a filter; of two that are alike, the later one counts. -/
abbrev Filter := List Directive

namespace Filter

/-- Reads a filter.  One with a directive that makes no sense is refused as a whole. -/
def ofText? (text : String) : Option Filter :=
  ((text.splitOn ",").filter (· ≠ "")).mapM Directive.ofText?

/-- Shows the events of this program up to a level. -/
def upTo (level : Level) : Filter :=
  [{ target := some "dart_data_gen", level := level }]

/-- The filter of a run: asking for more output wins over a text, and a text that is
refused counts as none. -/
def ofRun (verbose : Bool) (text : Option String) : Filter :=
  if verbose then upTo .debug
  else (text.bind ofText?).getD (upTo .warn)

/-- The directive that decides on an event: the last of the most specific ones that fit
it. -/
def directiveFor? (event : EventTraits) (filter : Filter) : Option Directive :=
  (filter.filter (·.fits event)).foldl
    (fun best directive =>
      match best with
      | none => some directive
      | some other => if directive.isBroader other then some other else some directive)
    none

/-- Whether an event is shown.  Nothing is shown for which no directive is. -/
def shows (filter : Filter) (event : EventTraits) : Bool :=
  match filter.directiveFor? event with
  | none => false
  | some directive => event.level.rank ≤ directive.level.rank

end Filter

end Memberwise.Command
