import Memberwise.Proofs.Document.Spelling

/-!
# Values of the wrong type in documents

Where a request has a string it may not have a number, and where it has a truth value it may not
have a string.  A document in which one value is of the wrong type is refused with the place of
that value.

Main definitions:

- {lit}`Leaf`: a value of a request that has no parts.
- {lit}`Place.SpellsRequestsBut`: whether a text is a document of requests with one wrong leaf.

Main results:

- Theorem {lit}`finds_wrongLeaf`: a request with one wrong leaf has its fault there.
- Theorem {lit}`requestsOf_wrongLeaf`: a document with one wrong leaf is refused with its place.
-/

namespace Memberwise.Document

open Memberwise.Json

/-! ## Leaves -/

/-- A member of the description of a field. -/
inductive FieldMember where
  | variableName
  | publicAliasName
  | mapKey
  | typeSignature
  | isNullable
deriving DecidableEq, Repr

/-- The name of a member of a description. -/
def FieldMember.name : FieldMember → String
  | variableName => "variableName"
  | publicAliasName => "publicAliasName"
  | mapKey => "mapKey"
  | typeSignature => "typeSignature"
  | isNullable => "isNullable"

/-- A value of a request that has no parts. -/
inductive Leaf where
  | className
  | existingMember (index : Nat)
  | signature (name : String)
  | fieldMember (index : Nat) (member : FieldMember)
deriving DecidableEq, Repr

namespace Leaf

/-- The member of a request that a leaf is in. -/
def member : Leaf → String
  | className => "className"
  | existingMember _ => "existingMembers"
  | signature _ => "fields"
  | fieldMember _ _ => "fields"

/-- The steps from that member to the leaf. -/
def inMember : Leaf → Path
  | className => []
  | existingMember index => [.element index]
  | signature name => [.member name]
  | fieldMember index member => [.element index, .member member.name]

/-- How these steps are written: indices in brackets, and names behind a point. -/
def inMemberText : Leaf → String
  | className => ""
  | existingMember index => "[" ++ Nat.repr index ++ "]"
  | signature name => "." ++ name
  | fieldMember index member => "[" ++ Nat.repr index ++ "]." ++ member.name

end Leaf

/-! ## Wrong leaves -/

/-- Whether a text is a value that has no parts, where a string is wanted. -/
def IsNoString (text : List Char) : Prop :=
  IsInteger text ∨ ∃ value, SpellsBoolean value text

/-- Whether a text is a value that has no parts, where a truth value is wanted. -/
def IsNoBoolean (text : List Char) : Prop :=
  IsInteger text ∨ ∃ value, SpellsString value text

/-- Whether a text is a value of the wrong type for a member of a description. -/
def FieldMember.IsWrong : FieldMember → List Char → Prop
  | isNullable => IsNoBoolean
  | variableName | publicAliasName | mapKey | typeSignature => IsNoString

/-- Whether a text is a description that has one member of the wrong type. -/
def SpellsFieldBut (member : FieldMember) (text : List Char) : Prop :=
  ∃ spec, SpellsRecord (overriding (fieldParts spec) member.name member.IsWrong) text

/-- Whether a text is what is in a member of a request, with one wrong leaf in it. -/
def Leaf.SpellsMember : Leaf → List Char → Prop
  | className => IsNoString
  | existingMember index =>
      SpellsArrayBut (fun text => ∃ value, SpellsString value text) IsNoString index
  | signature name =>
      SpellsObjectBut (fun text => ∃ value, SpellsOptional SpellsString value text) IsNoString name
  | fieldMember index member =>
      SpellsArrayBut (fun text => ∃ spec, SpellsField spec text) (SpellsFieldBut member) index

/-- Whether a text is a request that has one wrong leaf. -/
def SpellsRequestBut (leaf : Leaf) (text : List Char) : Prop :=
  ∃ request, SpellsRecord (overriding (requestParts request) leaf.member leaf.SpellsMember) text

/-- A place in a document of requests: a leaf of the request that the document is, or of the
request at an index of the array that it is. -/
structure Place where
  index? : Option Nat
  leaf : Leaf
deriving DecidableEq, Repr

namespace Place

/-- Whether a text is a document of requests that has one wrong leaf. -/
def SpellsRequestsBut (place : Place) (text : List Char) : Prop :=
  match place.index? with
  | none => SpellsRequestBut place.leaf text
  | some index =>
      SpellsArrayBut (fun text => ∃ request, SpellsRequest request text)
        (SpellsRequestBut place.leaf) index text

/-- The steps from the root of a document to a place. -/
def path (place : Place) : Path :=
  place.index?.toList.map Segment.element ++ .member place.leaf.member :: place.leaf.inMember

/-- How a place is written, as in {lit}`[1].fields[0].typeSignature` or {lit}`fields.b`. -/
def text (place : Place) : String :=
  match place.index? with
  | none => place.leaf.member ++ place.leaf.inMemberText
  | some index => "[" ++ Nat.repr index ++ "]." ++ place.leaf.member ++ place.leaf.inMemberText

/-- A place is written as the path to it is. -/
theorem text_path (place : Place) : place.path.text = place.text := by
  obtain ⟨index?, leaf⟩ := place
  have hbelow : Path.below leaf.inMember = leaf.inMemberText := by
    refine String.toList_inj.mp ?_
    cases leaf <;> simp [Path.below, Leaf.inMember, Leaf.inMemberText]
  refine String.toList_inj.mp ?_
  cases index? <;> simp [path, text, Path.text, Path.below, hbelow]

end Place

/-! ## Faults -/

/-- A value that is no string begins like one of an integer or a word. -/
theorem IsNoString.begins {text : List Char} (h : IsNoString text) :
    Begins text ∧ text.head? ≠ some 'n' ∧ text.head? ≠ some '"' := by
  rcases h with h | ⟨value, h⟩
  · refine ⟨h.begins, ?_⟩
    obtain ⟨c, tail, rfl, -, -, hmem⟩ := h.exists_cons_not_mem
    simp_all
  · refine ⟨h.begins, ?_⟩
    cases h
    cases value <;> simp

/-- A value that is no string is refused in the place of one. -/
theorem yields_readText_error {text : List Char} (h : IsNoString text) :
    Yields readText text (.error []) := by
  intro blanks rest hblanks hrest
  obtain ⟨hbegins, -, hquote⟩ := h.begins
  have hmismatch : located (mismatch "a string" (text ++ rest) :
      Except Fault (String × List Char)) = .error [] := by
    rcases h with h | ⟨value, h⟩
    · exact located_mismatch_integer _ h hrest
    · exact located_mismatch_boolean _ h rest
  unfold readText
  rw [hbegins.skipBlanks_append hblanks]
  split
  · rename_i tail heq
    obtain ⟨c, tail, rfl, -⟩ := hbegins
    cases heq
    exact absurd rfl hquote
  · exact hmismatch

/-- It is also refused where null may stand. -/
theorem yields_readOptional_readText_error {text : List Char} (h : IsNoString text) :
    Yields (readOptional readText) text (.error []) := by
  obtain ⟨hbegins, hnull, -⟩ := h.begins
  exact (yields_readText_error h).readOptional hbegins hnull

/-- A value that is no truth value begins like an integer or a string. -/
theorem IsNoBoolean.begins {text : List Char} (h : IsNoBoolean text) :
    Begins text ∧ text.head? ∉ [some 'n', some 't', some 'f'] := by
  rcases h with h | ⟨value, h⟩
  · refine ⟨h.begins, ?_⟩
    obtain ⟨c, tail, rfl, -, -, hmem⟩ := h.exists_cons_not_mem
    simp_all
  · refine ⟨h.begins, ?_⟩
    obtain ⟨tail, rfl, -⟩ := h.exists_readString
    simp

/-- A value that is no truth value is refused in the place of one. -/
theorem yields_readBoolean_error {text : List Char} (h : IsNoBoolean text) :
    Yields readBoolean text (.error []) := by
  intro blanks rest hblanks hrest
  obtain ⟨hbegins, hletters⟩ := h.begins
  have hmismatch : located (mismatch "a boolean" (text ++ rest) :
      Except Fault (Bool × List Char)) = .error [] := by
    rcases h with h | ⟨value, h⟩
    · exact located_mismatch_integer _ h hrest
    · exact located_mismatch_string _ h rest
  have hskip := hbegins.skipBlanks_append hblanks rest
  obtain ⟨c, tail, rfl, -⟩ := hbegins
  unfold readBoolean
  rw [hskip]
  split
  · rename_i heq
    cases heq
    simp at hletters
  · rename_i heq
    cases heq
    simp at hletters
  · exact hmismatch

/-- It is also refused where null may stand. -/
theorem yields_readOptional_readBoolean_error {text : List Char} (h : IsNoBoolean text) :
    Yields (readOptional readBoolean) text (.error []) := by
  obtain ⟨hbegins, hletters⟩ := h.begins
  exact (yields_readBoolean_error h).readOptional hbegins (by simp_all)

/-- A description with a member of the wrong type has its fault there. -/
theorem finds_field_error {member : FieldMember} {text : List Char}
    (h : SpellsFieldBut member text) :
    fieldSchema.Finds text (.error [.member member.name]) := by
  obtain ⟨spec, h⟩ := h
  have hname : member.name ∈ (fieldParts spec).map Part.name := by
    cases member <;> simp [FieldMember.name, fieldParts]
  refine Schema.finds_error (drafts_field spec) rfl (takes_field spec) hname ?_ h
  cases member with
  | variableName =>
      refine Schema.takes_slotOf rfl ?_ (fun _ => rfl) fun _ => yields_readText_error
      simp +contextual [FieldDraft.given, FieldMember.name]
  | publicAliasName | mapKey | typeSignature =>
      refine Schema.takes_slotOf rfl ?_ (fun _ => rfl) fun _ => yields_readOptional_readText_error
      simp +contextual [FieldDraft.given, FieldMember.name]
  | isNullable =>
      refine Schema.takes_slotOf rfl ?_ (fun _ => rfl) fun _ =>
        yields_readOptional_readBoolean_error
      simp +contextual [FieldDraft.given, FieldMember.name]

/-- A signature of the wrong type behind signatures that are read is found at its name. -/
theorem gathers_shorthand_error {before after : List (String × List Char)} {name : String}
    {value : List Char}
    (hbefore : ∀ other ∈ before, ∃ signature, SpellsOptional SpellsString signature other.2)
    (hvalue : IsNoString value) (fields : Shorthand) :
    Gathers shorthandMember fields (before ++ (name, value) :: after) (.error [.member name]) := by
  induction before generalizing fields with
  | nil =>
      have hread := (yields_readOptional_readText_error hvalue).map (fields.put name)
      exact .refused rfl hread
  | cons other before ih =>
      obtain ⟨signature, hsignature⟩ := hbefore other (by simp)
      have hread := (yields_readOptional_readText hsignature).map (fields.put other.1)
      exact .next rfl hread (ih (fun earlier hearlier => hbefore earlier (by simp [hearlier])) _)

/-- An array of members with a wrong one has its fault there. -/
theorem yields_existingMember_error {index : Nat} {text : List Char}
    (h : (Leaf.existingMember index).SpellsMember text) :
    Yields (readList readText) text (.error [.element index]) := by
  obtain ⟨elements, htext, hbegins, hcollects⟩ := h.exists_collects
    (fun _ ⟨_, h⟩ => ⟨⟨_, yields_readText h⟩, h.begins⟩)
    (fun _ h => ⟨yields_readText_error h, h.begins.1⟩)
  exact hcollects.yields hbegins htext

/-- Signatures with a wrong one have their fault there. -/
theorem yields_signature_error {name : String} {text : List Char}
    (h : (Leaf.signature name).SpellsMember text) :
    Yields readFieldList text (.error [.member name]) := by
  obtain ⟨before, value, after, htext, hothers, hvalue⟩ := h
  have hbefore : ∀ other ∈ before, ∃ signature, SpellsOptional SpellsString signature other.2 :=
    fun other hother => hothers other (by simp [hother])
  exact yields_readFieldList_object (gathers_shorthand_error hbefore hvalue []) htext

/-- Descriptions with a wrong member in one of them have their fault there. -/
theorem yields_fieldMember_error {index : Nat} {member : FieldMember} {text : List Char}
    (h : (Leaf.fieldMember index member).SpellsMember text) :
    Yields readFieldList text (.error [.element index, .member member.name]) := by
  obtain ⟨elements, htext, hbegins, hcollects⟩ := h.exists_collects
    (fun _ ⟨_, h⟩ => ⟨⟨_, yields_readFieldSpec h⟩, SpellsRecord.begins h⟩)
    (fun _ h => ⟨(finds_field_error h).yields, h.choose_spec.begins⟩)
  exact yields_readFieldList_array hcollects hbegins htext

/-- A member of a request with a wrong leaf in it has its fault there. -/
theorem takes_leaf (request : Request) (leaf : Leaf) :
    requestSchema.Takes (RequestDraft.given request) ⟨leaf.member, leaf.SpellsMember, False⟩
      fun _ => .error leaf.inMember := by
  cases leaf with
  | className =>
      refine Schema.takes_slotOf rfl ?_ (fun _ => rfl) fun _ => yields_readText_error
      simp +contextual [RequestDraft.given, Leaf.member]
  | existingMember index =>
      refine Schema.takes_slotOf rfl ?_ (fun _ => rfl) fun _ => yields_existingMember_error
      simp +contextual [RequestDraft.given, Leaf.member]
  | signature name =>
      refine Schema.takes_slotOf rfl ?_ (fun _ => rfl) fun _ => yields_signature_error
      simp +contextual [RequestDraft.given, Leaf.member]
  | fieldMember index member =>
      refine Schema.takes_slotOf rfl ?_ (fun _ => rfl) fun _ => yields_fieldMember_error
      simp +contextual [RequestDraft.given, Leaf.member]

/-- A request with one wrong leaf has its fault there. -/
theorem finds_wrongLeaf {leaf : Leaf} {text : List Char} (h : SpellsRequestBut leaf text) :
    requestSchema.Finds text (.error (.member leaf.member :: leaf.inMember)) := by
  obtain ⟨request, h⟩ := h
  have hname : leaf.member ∈ (requestParts request).map Part.name := by
    cases leaf <;> simp [Leaf.member, requestParts]
  exact Schema.finds_error (drafts_request request) rfl (takes_request request) hname
    (takes_leaf request leaf) h

/-- A document with one wrong leaf has its fault there. -/
theorem yields_wrongLeaf {place : Place} {text : List Char} (h : place.SpellsRequestsBut text) :
    Yields readRequests text (.error place.path) := by
  obtain ⟨index?, leaf⟩ := place
  cases index? with
  | none => exact yields_readRequests_object (finds_wrongLeaf h)
  | some index =>
      obtain ⟨elements, htext, hbegins, hcollects⟩ := SpellsArrayBut.exists_collects h
        (fun _ ⟨_, h⟩ => ⟨⟨_, (finds_request h).yields⟩, SpellsRecord.begins h⟩)
        (fun _ h => ⟨(finds_wrongLeaf h).yields, h.choose_spec.begins⟩)
      exact yields_readRequests_array hcollects hbegins htext

/-- The message of a document with a fault starts with the origin of the document and the place of
the fault. -/
theorem exists_message_eq (origin : String) (fault : Fault) (source : List Char) :
    ∃ details, (DocumentError.mk origin (.invalid fault source)).message =
      origin ++ ": at JSON path " ++ fault.path.text ++ " → " ++ details := by
  refine ⟨fault.cause.message ++ " at line " ++ Nat.repr (fault.position source).line ++
    " column " ++ Nat.repr (fault.position source).column, ?_⟩
  change origin ++ ": " ++ fault.message source = _
  unfold Fault.message
  refine String.toList_inj.mp ?_
  simp

/-- A document of requests in which one leaf is of the wrong type is refused, and the refusal names
the origin of the document and the place of the leaf. -/
theorem requestsOf_wrongLeaf {place : Place} {text : String}
    (h : Padded Place.SpellsRequestsBut place text.toList) (origin : String) :
    ∃ fault, Command.requestsOf origin text =
        .error (.document ⟨origin, .invalid fault text.toList⟩) ∧
      fault.path = place.path ∧
      ∃ details, (DocumentError.mk origin (.invalid fault text.toList)).message =
        origin ++ ": at JSON path " ++ place.text ++ " → " ++ details := by
  obtain ⟨before, inside, after, hbefore, hinside, hafter, htext⟩ := h
  obtain ⟨fault, hread, hpath⟩ :=
    (yields_wrongLeaf hinside).exists_fault hbefore (closes_of_isBlanks hafter)
  refine ⟨fault, ?_, hpath, ?_⟩
  · rw [Command.requestsOf, readDocument]
    simp only [htext, hread]
  · rw [← place.text_path, ← hpath]
    exact exists_message_eq origin fault text.toList

/-- The signature of the first field of the second request is a number. -/
theorem requestsOf_wrongLeaf_signature :
    let text := "[\x7b\"className\":\"A\"\x7d,\x7b\"className\":\"B\",\"fields\":" ++
      "[\x7b\"variableName\":\"a\",\"typeSignature\":5\x7d]\x7d]"
    ∃ fault, Command.requestsOf "a" text =
        .error (.document ⟨"a", .invalid fault text.toList⟩) ∧
      fault.path = [.element 1, .member "fields", .element 0, .member "typeSignature"] ∧
      ∃ details, (DocumentError.mk "a" (.invalid fault text.toList)).message =
        "a" ++ ": at JSON path " ++ "[1].fields[0].typeSignature" ++ " → " ++ details := by
  intro text
  let field : List Char := Bracket.curly.opening ::
    (printedString "variableName" ++ ':' :: printedString "a" ++
      ',' :: (printedString "typeSignature" ++ ':' :: ['5']) ++ [Bracket.curly.closing])
  let fields : List Char := Bracket.square.opening :: (field ++ [Bracket.square.closing])
  let first : List Char := Bracket.curly.opening ::
    (printedString "className" ++ ':' :: printedString "A" ++ [Bracket.curly.closing])
  let second : List Char := Bracket.curly.opening ::
    (printedString "className" ++ ':' :: printedString "B" ++
      ',' :: (printedString "fields" ++ ':' :: fields) ++ [Bracket.curly.closing])
  let document : List Char := Bracket.square.opening ::
    (first ++ ',' :: second ++ [Bracket.square.closing])
  have htext : text.toList = [] ++ (document ++ []) := by decide +kernel
  have hmember : ∀ name value, SpellsMember SpellsString Eq (name, value)
      (printedString name ++ ':' :: value) :=
    fun name value => ⟨_, _, padded_self (spellsString_printedString name), padded_self rfl, rfl⟩
  have hfield : SpellsFieldBut .typeSignature field := by
    refine ⟨{ storageName := "a" }, _,
      .filled (.cons (hmember "variableName" _) (.last (hmember "typeSignature" _))), ?_, ?_⟩
    · have hfive : IsNoString ['5'] :=
        .inl (@IsInteger.mk [] _ (by simp) ⟨by simp, List.forall_mem_singleton.mpr rfl⟩ (by simp))
      simp [fieldParts, overriding, FieldMember.name, FieldMember.IsWrong, Part.IsGiven, hfive,
        spellsString_printedString]
    · simp [fieldParts, overriding, FieldMember.name]
  have hfields : SpellsArrayBut (fun text => ∃ spec, SpellsField spec text)
      (SpellsFieldBut .typeSignature) 0 fields :=
    ⟨[], field, [], .filled (.last (padded_self rfl)), rfl, by simp, hfield⟩
  have hfirst : SpellsRequest { className := "A" } first := by
    refine ⟨_, .filled (.last (hmember "className" _)), ?_, ?_⟩
    · simp [requestParts, Part.IsGiven, spellsString_printedString]
    · simp [requestParts]
  have hsecond : SpellsRequestBut (.fieldMember 0 .typeSignature) second := by
    refine ⟨{ className := "B" }, _,
      .filled (.cons (hmember "className" _) (.last (hmember "fields" _))), ?_, ?_⟩
    · simp [requestParts, overriding, Leaf.member, Leaf.SpellsMember, Part.IsGiven, hfields,
        spellsString_printedString]
    · simp [requestParts, overriding, Leaf.member]
  have hdocument : Place.SpellsRequestsBut ⟨some 1, .fieldMember 0 .typeSignature⟩ document :=
    ⟨[first], second, [], .filled (.cons (padded_self rfl) (.last (padded_self rfl))), rfl,
      by simpa using ⟨_, hfirst⟩, hsecond⟩
  exact requestsOf_wrongLeaf ⟨[], document, [], rfl, hdocument, rfl, htext⟩ "a"

end Memberwise.Document
