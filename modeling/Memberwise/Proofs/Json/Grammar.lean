import Mathlib.Data.List.Forall2
import Memberwise.Json.Skip

/-!
# Spellings of JSON

Which texts are JSON, and which of them spell a given value.  A value has many spellings: there
may be blanks between all parts, and a character of a string may be written as it stands or by
one of several escapes.

Main definitions:

- {lit}`SpellsString`: whether a text is a string of given characters.
- {lit}`IsNumber`: whether a text is a number.
- {lit}`SpellsArray` and {lit}`SpellsObject`: whether a text is an array or an object whose parts
  spell given things.
- {lit}`IsJson`: whether a text is a value of any kind.
-/

namespace Memberwise.Json

/-! ## Blanks -/

/-- Whether a text consists of blanks. -/
def IsBlanks (text : List Char) : Prop :=
  skipBlanks text = []

/-- Whether a text is a spelling of something, with blanks around it. -/
def Padded {α : Type} (spells : α → List Char → Prop) (a : α) (text : List Char) : Prop :=
  ∃ before inside after, IsBlanks before ∧ spells a inside ∧ IsBlanks after ∧
    text = before ++ (inside ++ after)

/-- Whether a text may stand behind a value: it is empty, or starts with a blank, a comma or a
closing bracket. -/
def Closes (rest : List Char) : Prop :=
  ∀ c ∈ rest.head?, isBlank c = true ∨ c ∈ [',', ']', '}']

/-- Whether a text starts like a value: with a character that is neither a blank nor a closing
bracket. -/
def Begins (text : List Char) : Prop :=
  ∃ c tail, text = c :: tail ∧ isBlank c = false ∧ c ∉ [']', '}']

/-! ## Strings -/

/-- Whether a character may stand in a string as it is. -/
def IsPlain (c : Char) : Prop :=
  c ≠ '"' ∧ c ≠ '\\' ∧ isControl c = false

/-- The letters that may follow a backslash, each with the character that both stand for. -/
def shortEscapes : List (Char × Char) :=
  [('"', '"'), ('\\', '\\'), ('/', '/'), ('b', '\x08'), ('f', '\x0c'), ('n', '\n'),
    ('r', '\r'), ('t', '\t')]

/-- Whether four hexadecimal digits spell a code unit. -/
inductive SpellsUnit : Nat → List Char → Prop where
  | digits {a b c d : Char} {i j k l : Nat} (ha : Text.hexDigit? a = some i)
      (hb : Text.hexDigit? b = some j) (hc : Text.hexDigit? c = some k)
      (hd : Text.hexDigit? d = some l) :
      SpellsUnit (4096 * i + 256 * j + 16 * k + l) [a, b, c, d]

/-- Whether a text stands for a character in a string: it is the character itself, or an escape
of one letter, or the escape of its code unit, or those of both of its code units. -/
inductive SpellsChar : Char → List Char → Prop where
  | plain {c : Char} (hc : IsPlain c) : SpellsChar c [c]
  | short {letter c : Char} (h : (letter, c) ∈ shortEscapes) : SpellsChar c ['\\', letter]
  | unit {c : Char} {digits : List Char} (h : SpellsUnit c.toNat digits) :
      SpellsChar c ('\\' :: 'u' :: digits)
  | pair {c : Char} {first second : List Char} (hc : 0x10000 ≤ c.toNat)
      (hfirst : SpellsUnit (0xD800 + (c.toNat - 0x10000) / 0x400) first)
      (hsecond : SpellsUnit (0xDC00 + (c.toNat - 0x10000) % 0x400) second) :
      SpellsChar c ('\\' :: 'u' :: (first ++ '\\' :: 'u' :: second))

/-- Whether a text is a string of given characters. -/
def SpellsString (value : String) (text : List Char) : Prop :=
  ∃ parts : List (List Char), List.Forall₂ SpellsChar value.toList parts ∧
    text = '"' :: (parts.flatten ++ ['"'])

/-- Whether a text is a part of some string: a character, or an escape, which need not stand for
a character on its own. -/
inductive IsStringPart : List Char → Prop where
  | plain {c : Char} (hc : IsPlain c) : IsStringPart [c]
  | short {letter c : Char} (h : (letter, c) ∈ shortEscapes) : IsStringPart ['\\', letter]
  | unit {code : Nat} {digits : List Char} (h : SpellsUnit code digits) :
      IsStringPart ('\\' :: 'u' :: digits)

/-- Whether a text is a string, of whatever characters or halves of characters. -/
def IsString (text : List Char) : Prop :=
  ∃ parts : List (List Char), (∀ part ∈ parts, IsStringPart part) ∧
    text = '"' :: (parts.flatten ++ ['"'])

/-! ## Numbers -/

/-- Whether a text consists of digits, of which there is one at least. -/
def IsDigits (text : List Char) : Prop :=
  text ≠ [] ∧ ∀ c ∈ text, c.isDigit = true

/-- Whether a text is an integer: behind a sign, a leading zero stands alone. -/
inductive IsInteger : List Char → Prop where
  | mk {sign digits : List Char} (hsign : sign ∈ [[], ['-']]) (hdigits : IsDigits digits)
      (hzero : digits.head? = some '0' → digits = ['0']) : IsInteger (sign ++ digits)

/-- Whether a text is a fraction, which may be missing. -/
inductive IsFraction : List Char → Prop where
  | absent : IsFraction []
  | present {digits : List Char} (h : IsDigits digits) : IsFraction ('.' :: digits)

/-- Whether a text is an exponent, which may be missing. -/
inductive IsExponent : List Char → Prop where
  | absent : IsExponent []
  | present {letter : Char} {sign digits : List Char} (hletter : letter ∈ ['e', 'E'])
      (hsign : sign ∈ [[], ['+'], ['-']]) (h : IsDigits digits) :
      IsExponent (letter :: (sign ++ digits))

/-- Whether a text is a number. -/
def IsNumber (text : List Char) : Prop :=
  ∃ integer fraction exponent, IsInteger integer ∧ IsFraction fraction ∧ IsExponent exponent ∧
    text = integer ++ (fraction ++ exponent)

/-! ## Arrays and objects -/

/-- The character that opens a bracket. -/
def Bracket.opening : Bracket → Char
  | square => '['
  | curly => '{'

section Parts

variable {ν α : Type}

/-- Whether a text consists of spellings of some things, with commas between them. -/
inductive Separated (spells : α → List Char → Prop) : List α → List Char → Prop where
  | last {a : α} {text : List Char} (h : spells a text) : Separated spells [a] text
  | cons {a : α} {rest : List α} {text more : List Char} (h : spells a text)
      (hmore : Separated spells rest more) :
      Separated spells (a :: rest) (text ++ ',' :: more)

/-- Whether a text consists of spellings of some things between brackets. -/
inductive Enclosed (bracket : Bracket) (spells : α → List Char → Prop) :
    List α → List Char → Prop where
  | empty {blanks : List Char} (h : IsBlanks blanks) :
      Enclosed bracket spells [] (bracket.opening :: (blanks ++ [bracket.closing]))
  | filled {list : List α} {text : List Char} (h : Separated spells list text) :
      Enclosed bracket spells list (bracket.opening :: (text ++ [bracket.closing]))

/-- Whether a text is an array of spellings of some things. -/
def SpellsArray (spells : α → List Char → Prop) : List α → List Char → Prop :=
  Enclosed .square (Padded spells)

/-- Whether a text is an array that has one element of some form at an index, and others of another
form around it. -/
def SpellsArrayBut (others wrong : List Char → Prop) (index : Nat) (text : List Char) : Prop :=
  ∃ before element after, SpellsArray Eq (before ++ element :: after) text ∧
    before.length = index ∧ (∀ other ∈ before ++ after, others other) ∧ wrong element

/-- Whether a text is a name and a value with a colon between them. -/
def SpellsMember (spellsName : ν → List Char → Prop) (spells : α → List Char → Prop)
    (member : ν × α) (text : List Char) : Prop :=
  ∃ name value, Padded spellsName member.1 name ∧ Padded spells member.2 value ∧
    text = name ++ ':' :: value

/-- Whether a text is an object whose members have given names and values. -/
def SpellsObject (spellsName : ν → List Char → Prop) (spells : α → List Char → Prop) :
    List (ν × α) → List Char → Prop :=
  Enclosed .curly (SpellsMember spellsName spells)

/-- The first of some things is spelled first. -/
theorem Separated.exists_first {spells : α → List Char → Prop} {list : List α} {text : List Char}
    (h : Separated spells list text) :
    ∃ a ∈ list, ∃ first more, spells a first ∧ text = first ++ more := by
  cases h with
  | last h => exact ⟨_, by simp, _, [], h, by simp⟩
  | cons h hmore => exact ⟨_, by simp, _, _, h, rfl⟩

/-- Of some things with commas between them, each but the first takes a character at least. -/
theorem Separated.length_le {spells : α → List Char → Prop} {list : List α} {text : List Char}
    (h : Separated spells list text) : list.length ≤ text.length + 1 := by
  induction h with
  | last h => simp
  | cons h _ ih =>
      simp only [List.length_append, List.length_cons]
      omega

/-- Where every spelling of a thing is also one of a related thing, spellings of some things are
those of as many related things. -/
theorem Separated.exists_related {β : Type} {spells : α → List Char → Prop}
    {others : β → List Char → Prop} {related : α → β → Prop} {list : List α} {text : List Char}
    (h : Separated spells list text)
    (hrelated : ∀ a text, spells a text → ∃ b, related a b ∧ others b text) :
    ∃ list', List.Forall₂ related list list' ∧ Separated others list' text := by
  induction h with
  | last h =>
      obtain ⟨b, hb, hother⟩ := hrelated _ _ h
      exact ⟨[b], .cons hb .nil, .last hother⟩
  | cons h _ ih =>
      obtain ⟨b, hb, hother⟩ := hrelated _ _ h
      obtain ⟨list', hlist, hothers⟩ := ih
      exact ⟨b :: list', .cons hb hlist, .cons hother hothers⟩

/-- The same between brackets. -/
theorem Enclosed.exists_related {β : Type} {bracket : Bracket} {spells : α → List Char → Prop}
    {others : β → List Char → Prop} {related : α → β → Prop} {list : List α} {text : List Char}
    (h : Enclosed bracket spells list text)
    (hrelated : ∀ a text, spells a text → ∃ b, related a b ∧ others b text) :
    ∃ list', List.Forall₂ related list list' ∧ Enclosed bracket others list' text := by
  cases h with
  | empty h => exact ⟨[], .nil, .empty h⟩
  | filled h =>
      obtain ⟨list', hlist, hothers⟩ := h.exists_related hrelated
      exact ⟨list', hlist, .filled hothers⟩

/-- The elements of an array have texts. -/
theorem SpellsArray.exists_texts {spells : α → List Char → Prop} {list : List α}
    {text : List Char} (h : SpellsArray spells list text) :
    ∃ texts, List.Forall₂ spells list texts ∧ SpellsArray Eq texts text := by
  refine Enclosed.exists_related h ?_
  rintro a _ ⟨before, inside, after, hbefore, hinside, hafter, rfl⟩
  exact ⟨inside, hinside, before, inside, after, hbefore, rfl, hafter, rfl⟩

/-- The values of the members of an object have texts. -/
theorem SpellsObject.exists_texts {spellsName : ν → List Char → Prop}
    {spells : α → List Char → Prop} {members : List (ν × α)} {text : List Char}
    (h : SpellsObject spellsName spells members text) :
    ∃ texts : List (ν × List Char),
      List.Forall₂ (fun member named => named.1 = member.1 ∧ spells member.2 named.2)
        members texts ∧ SpellsObject spellsName Eq texts text := by
  refine Enclosed.exists_related h ?_
  rintro member _
    ⟨name, _, hname, ⟨before, inside, after, hbefore, hinside, hafter, rfl⟩, rfl⟩
  exact ⟨(member.1, inside), ⟨rfl, hinside⟩, name, _, hname,
    ⟨before, inside, after, hbefore, rfl, hafter, rfl⟩, rfl⟩

end Parts

/-- Whether a text is an object that has one member of a name with a value of some form, and others
with values of another form around it. -/
def SpellsObjectBut (others wrong : List Char → Prop) (name : String) (text : List Char) : Prop :=
  ∃ before value after, SpellsObject SpellsString Eq (before ++ (name, value) :: after) text ∧
    (∀ other ∈ before ++ after, others other.2) ∧ wrong value

/-! ## Values -/

/-- Whether a text is the word for a truth value. -/
def SpellsBoolean (value : Bool) (text : List Char) : Prop :=
  text = if value then ['t', 'r', 'u', 'e'] else ['f', 'a', 'l', 's', 'e']

/-- Whether a text is the word for nothing. -/
def SpellsNull (text : List Char) : Prop :=
  text = ['n', 'u', 'l', 'l']

/-- Whether a text is a spelling of something, or the word for nothing. -/
def SpellsOptional {α : Type} (spells : α → List Char → Prop) : Option α → List Char → Prop
  | some a, text => spells a text
  | none, text => SpellsNull text

/-- Whether a text is a value of any kind.  In a value that nobody asks for, strings may have
halves of characters, and names may be repeated. -/
inductive IsJson : List Char → Prop where
  | null {text : List Char} (h : SpellsNull text) : IsJson text
  | boolean {value : Bool} {text : List Char} (h : SpellsBoolean value text) : IsJson text
  | number {text : List Char} (h : IsNumber text) : IsJson text
  | string {text : List Char} (h : IsString text) : IsJson text
  | array {elements : List (List Char)} {text : List Char} (h : SpellsArray Eq elements text)
      (helements : ∀ element ∈ elements, IsJson element) : IsJson text
  | object {members : List (List Char × List Char)} {text : List Char}
      (h : SpellsObject Eq Eq members text) (hnames : ∀ member ∈ members, IsString member.1)
      (hvalues : ∀ member ∈ members, IsJson member.2) : IsJson text

/-! ## What follows a value -/

/-- No text at all consists of blanks. -/
theorem isBlanks_nil : IsBlanks [] :=
  rfl

/-- A spelling may stand without blanks around it. -/
theorem padded_self {α : Type} {spells : α → List Char → Prop} {a : α} {text : List Char}
    (h : spells a text) : Padded spells a text :=
  ⟨[], text, [], isBlanks_nil, h, isBlanks_nil, by simp⟩

/-- Blanks in front of what may follow a value may follow it, too. -/
theorem Closes.blanks_append {blanks rest : List Char} (hblanks : IsBlanks blanks)
    (h : Closes rest) : Closes (blanks ++ rest) := by
  cases blanks with
  | nil => exact h
  | cons c blanks =>
      intro d hd
      cases hd
      refine Or.inl ?_
      by_contra hc
      simp [IsBlanks, skipBlanks, hc] at hblanks

/-- Blanks alone may follow a value. -/
theorem closes_of_isBlanks {blanks : List Char} (h : IsBlanks blanks) : Closes blanks := by
  rw [← List.append_nil blanks]
  exact Closes.blanks_append h (by simp [Closes])

/-- A comma may follow a value. -/
theorem closes_comma (rest : List Char) : Closes (',' :: rest) := by
  intro c hc
  cases hc
  exact Or.inr (by decide)

/-- A closing bracket may follow a value. -/
theorem closes_closing (bracket : Bracket) (rest : List Char) :
    Closes (bracket.closing :: rest) := by
  intro c hc
  cases hc
  exact Or.inr (by cases bracket <;> decide)

end Memberwise.Json
