import Memberwise.Document.Request
import Memberwise.Proofs.Command.Loading
import Memberwise.Proofs.Json.Parts

/-!
# Spellings of requests

A request may be written in many ways: its members and those of its descriptions in any order,
among others that nobody asks for, with or without the parts that are missing, with any escapes
and any blanks.  All of them are read to the request.

Main definitions:

- {lit}`SpellsRequest`: whether a text is a request that is written as an object.
- {lit}`SpellsRequests`: whether a text is a document of requests.

Main results:

- Theorem {lit}`finds_request`: a spelling of a request is found to be it.
- Theorem {lit}`read_spellings`: every spelling of requests is read to them.
-/

namespace Memberwise.Document

open Memberwise.Json

/-! ## Descriptions of fields -/

/-- The parts of a description. -/
def fieldParts (spec : FieldSpec) : List Part :=
  [⟨"variableName", SpellsString spec.storageName, False⟩,
    ⟨"publicAliasName", SpellsOptional SpellsString spec.publicName?, spec.publicName? = none⟩,
    ⟨"mapKey", SpellsOptional SpellsString spec.mapKey?, spec.mapKey? = none⟩,
    ⟨"typeSignature", SpellsOptional SpellsString spec.signature?, spec.signature? = none⟩,
    ⟨"isNullable", SpellsOptional SpellsBoolean spec.nullable?, spec.nullable? = none⟩]

/-- Whether a text is a description that is written as an object. -/
def SpellsField (spec : FieldSpec) : List Char → Prop :=
  SpellsRecord (fieldParts spec)

/-- What has been read of a description when members with some names have been read. -/
def FieldDraft.given (spec : FieldSpec) (seen : List String) : FieldDraft where
  storageName := if "variableName" ∈ seen then some spec.storageName else none
  publicName := if "publicAliasName" ∈ seen then some spec.publicName? else none
  mapKey := if "mapKey" ∈ seen then some spec.mapKey? else none
  signature := if "typeSignature" ∈ seen then some spec.signature? else none
  nullable := if "isNullable" ∈ seen then some spec.nullable? else none

/-- Descriptions are read member by member. -/
theorem drafts_field (spec : FieldSpec) : fieldSchema.Drafts (FieldDraft.given spec) where
  empty := by simp [FieldDraft.given, fieldSchema]
  skip := by
    intro name hname seen
    simp only [fieldSchema, Slot.of, List.map_cons, List.map_nil, List.mem_cons, List.not_mem_nil,
      or_false, not_or] at hname
    obtain ⟨hstorage, hpublic, hkey, hsignature, hnullable⟩ := hname
    simp [FieldDraft.given, Ne.symm hstorage, Ne.symm hpublic, Ne.symm hkey, Ne.symm hsignature,
      Ne.symm hnullable]

/-- Every part of a description is taken where it stands. -/
theorem takes_field (spec : FieldSpec) :
    ∀ part ∈ fieldParts spec, fieldSchema.Takes (FieldDraft.given spec) part fun seen =>
      .ok (FieldDraft.given spec (seen ++ [part.name])) := by
  intro part hpart
  simp only [fieldParts, List.mem_cons, List.not_mem_nil, or_false] at hpart
  rcases hpart with rfl | rfl | rfl | rfl | rfl
  · refine Schema.takes_slotOf rfl ?_ ?_ fun _ => yields_readText
    all_goals simp +contextual [FieldDraft.given, Except.map]
  · refine Schema.takes_slotOf rfl ?_ ?_ fun _ => yields_readOptional_readText
    all_goals simp +contextual [FieldDraft.given, Except.map]
  · refine Schema.takes_slotOf rfl ?_ ?_ fun _ => yields_readOptional_readText
    all_goals simp +contextual [FieldDraft.given, Except.map]
  · refine Schema.takes_slotOf rfl ?_ ?_ fun _ => yields_readOptional_readText
    all_goals simp +contextual [FieldDraft.given, Except.map]
  · refine Schema.takes_slotOf rfl ?_ ?_ fun _ => yields_readOptional_readBoolean
    all_goals simp +contextual [FieldDraft.given, Except.map]

/-- What may be given or not is the same in the end if it is nothing where it is not given. -/
theorem join_given {α : Type} {name : String} {seen : List String} {value : Option α}
    (h : name ∉ seen → value = none) :
    (if name ∈ seen then some value else none).join = value := by
  by_cases hname : name ∈ seen
  · rw [if_pos hname, Option.join_some]
  · rw [if_neg hname, h hname, Option.join_none]

/-- A description with its storage name is complete; what is missing of the rest is nothing. -/
theorem ofMembers_field (spec : FieldSpec) (seen : List String)
    (hmissing : ∀ part ∈ fieldParts spec, part.name ∉ seen → part.isOptional) :
    fieldSchema.ofMembers (FieldDraft.given spec seen) = .ok spec := by
  simp only [fieldParts, List.forall_mem_cons, imp_false, not_not] at hmissing
  obtain ⟨hstorage, hpublic, hkey, hsignature, hnullable, -⟩ := hmissing
  simp [fieldSchema, FieldDraft.given, FieldDraft.finish, hstorage, join_given hpublic,
    join_given hkey, join_given hsignature, join_given hnullable]

/-- A spelling of a description is read to it. -/
theorem yields_readFieldSpec {spec : FieldSpec} {text : List Char} (h : SpellsField spec text) :
    Yields readFieldSpec text (.ok spec) :=
  Schema.Finds.yields
    (Schema.finds_ok (drafts_field spec) rfl (takes_field spec) (ofMembers_field spec) h)

/-! ## Fields of a request -/

/-- Whether a text is the fields of a request: an array of descriptions, or an object that maps
names, none of them twice, to signatures. -/
def SpellsFieldList : FieldList → List Char → Prop
  | .detailed specs, text => SpellsArray SpellsField specs text
  | .shorthand signatures, text =>
      (signatures.map Prod.fst).Nodup ∧
        SpellsObject SpellsString (SpellsOptional SpellsString) signatures text

/-- An array yields the descriptions that its elements do. -/
theorem yields_readFieldList_array {elements : List (List Char)}
    {outcome : Except Path (List FieldSpec)} (h : Collects readFieldSpec 0 elements outcome)
    (hbegins : ∀ element ∈ elements, Begins element) {text : List Char}
    (htext : SpellsArray Eq elements text) :
    Yields readFieldList text (outcome.map FieldList.detailed) := by
  obtain ⟨inside, rfl, hread⟩ := h.located_readListBody hbegins htext
  intro blanks rest hblanks _
  rw [readFieldList, List.cons_append, skipBlanks_blanks_append hblanks (by decide)]
  refine (located_bind _ fun found : List FieldSpec × List Char =>
    (FieldList.detailed found.1, found.2)).trans ?_
  rw [hread rest]
  cases outcome <;> rfl

/-- An object yields the signatures that its members do. -/
theorem yields_readFieldList_object {members : List (String × List Char)}
    {outcome : Except Path Shorthand} (h : Gathers shorthandMember [] members outcome)
    {text : List Char} (htext : SpellsObject SpellsString Eq members text) :
    Yields readFieldList text (outcome.map FieldList.shorthand) := by
  obtain ⟨inside, rfl, hread⟩ := h.located_readObjectBody htext
  intro blanks rest hblanks _
  rw [readFieldList, List.cons_append, skipBlanks_blanks_append hblanks (by decide)]
  refine (located_bind _ fun found : Shorthand × List Char =>
    (FieldList.shorthand found.1, found.2)).trans ?_
  rw [hread rest]
  cases outcome <;> rfl

/-- The signatures by name after more of them have been put one after another. -/
def putAll (fields : Shorthand) (pairs : List (String × Option String)) : Shorthand :=
  pairs.foldl (fun fields pair => fields.put pair.1 pair.2) fields

/-- A name that is new is put behind the others. -/
theorem put_of_not_mem {fields : Shorthand} {name : String} (h : name ∉ fields.map Prod.fst)
    (signature : Option String) : fields.put name signature = fields ++ [(name, signature)] := by
  induction fields with
  | nil => rfl
  | cons entry fields ih =>
      simp only [List.map_cons, List.mem_cons, not_or] at h
      rw [Shorthand.put, if_neg (Ne.symm h.1), ih h.2, List.cons_append]

/-- Signatures of different names are put in their order. -/
theorem putAll_of_nodup {fields : Shorthand} {pairs : List (String × Option String)}
    (hnames : ((fields ++ pairs).map Prod.fst).Nodup) : putAll fields pairs = fields ++ pairs := by
  induction pairs generalizing fields with
  | nil => rw [putAll, List.foldl_nil, List.append_nil]
  | cons pair pairs ih =>
      rw [List.append_cons] at hnames ⊢
      have hnew : pair.1 ∉ fields.map Prod.fst := by
        rw [List.map_append, List.map_append, List.append_assoc] at hnames
        intro hmem
        exact (List.nodup_append.mp hnames).2.2 _ hmem pair.1 (by simp) rfl
      rw [← ih hnames, putAll, List.foldl_cons, put_of_not_mem hnew, putAll]

/-- Members that spell signatures are put one after another, whatever their names are. -/
theorem gathers_shorthand {pairs : List (String × Option String)} {fields : Shorthand}
    {members : List (String × List Char)}
    (hmembers : List.Forall₂ (fun pair member => member.1 = pair.1 ∧
      SpellsOptional SpellsString pair.2 member.2) pairs members) :
    Gathers shorthandMember fields members (.ok (putAll fields pairs)) := by
  induction hmembers generalizing fields with
  | nil => exact .nil
  | @cons pair member pairs members hmember _ ih =>
      obtain ⟨_, signature⟩ := pair
      obtain ⟨name, value⟩ := member
      obtain ⟨rfl, hvalue⟩ := hmember
      exact .next rfl ((yields_readOptional_readText hvalue).map (fields.put name)) ih

/-- An object of names and signatures is read to what putting them yields. -/
theorem yields_readFieldList_pairs {pairs : List (String × Option String)} {text : List Char}
    (h : SpellsObject SpellsString (SpellsOptional SpellsString) pairs text) :
    Yields readFieldList text (.ok (.shorthand (putAll [] pairs))) := by
  obtain ⟨members, hmembers, htext⟩ := h.exists_texts
  exact yields_readFieldList_object (gathers_shorthand hmembers) htext

/-- A spelling of fields is read to them. -/
theorem yields_readFieldList {fields : FieldList} {text : List Char}
    (h : SpellsFieldList fields text) : Yields readFieldList text (.ok fields) := by
  cases fields with
  | detailed specs =>
      obtain ⟨elements, htext, hbegins, hcollects⟩ :=
        SpellsArray.exists_collects h (fun _ _ => yields_readFieldSpec) fun _ _ => SpellsRecord.begins
      exact yields_readFieldList_array hcollects hbegins htext
  | shorthand signatures =>
      obtain ⟨hnames, hsignatures⟩ := h
      have hput : putAll [] signatures = signatures := putAll_of_nodup hnames
      have hread := yields_readFieldList_pairs hsignatures
      rwa [hput] at hread

/-! ## Requests -/

/-- The parts of a request. -/
def requestParts (request : Request) : List Part :=
  [⟨"className", SpellsString request.className, False⟩,
    ⟨"fields", SpellsFieldList request.fields, request.fields = .detailed []⟩,
    ⟨"existingMembers", SpellsArray SpellsString request.existingMembers,
      request.existingMembers = []⟩]

/-- Whether a text is a request that is written as an object. -/
def SpellsRequest (request : Request) : List Char → Prop :=
  SpellsRecord (requestParts request)

/-- What has been read of a request when members with some names have been read. -/
def RequestDraft.given (request : Request) (seen : List String) : RequestDraft where
  className := if "className" ∈ seen then some request.className else none
  fields := if "fields" ∈ seen then some request.fields else none
  existingMembers := if "existingMembers" ∈ seen then some request.existingMembers else none

/-- Requests are read member by member. -/
theorem drafts_request (request : Request) :
    requestSchema.Drafts (RequestDraft.given request) where
  empty := by simp [RequestDraft.given, requestSchema]
  skip := by
    intro name hname seen
    simp only [requestSchema, Slot.of, List.map_cons, List.map_nil, List.mem_cons,
      List.not_mem_nil, or_false, not_or] at hname
    obtain ⟨hclass, hfields, hmembers⟩ := hname
    simp [RequestDraft.given, Ne.symm hclass, Ne.symm hfields, Ne.symm hmembers]

/-- An array of strings yields what they spell. -/
theorem yields_readList_readText {list : List String} {text : List Char}
    (h : SpellsArray SpellsString list text) : Yields (readList readText) text (.ok list) := by
  obtain ⟨elements, htext, hbegins, hcollects⟩ :=
    h.exists_collects (fun _ _ => yields_readText) fun _ _ => SpellsString.begins
  exact hcollects.yields hbegins htext

/-- Every part of a request is taken where it stands. -/
theorem takes_request (request : Request) :
    ∀ part ∈ requestParts request, requestSchema.Takes (RequestDraft.given request) part
      fun seen => .ok (RequestDraft.given request (seen ++ [part.name])) := by
  intro part hpart
  simp only [requestParts, List.mem_cons, List.not_mem_nil, or_false] at hpart
  rcases hpart with rfl | rfl | rfl
  · refine Schema.takes_slotOf rfl ?_ ?_ fun _ => yields_readText
    all_goals simp +contextual [RequestDraft.given, Except.map]
  · refine Schema.takes_slotOf rfl ?_ ?_ fun _ => yields_readFieldList
    all_goals simp +contextual [RequestDraft.given, Except.map]
  · refine Schema.takes_slotOf rfl ?_ ?_ fun _ => yields_readList_readText
    all_goals simp +contextual [RequestDraft.given, Except.map]

/-- What may be given or not is the same in the end if it is the default where it is not given. -/
theorem getD_given {α : Type} {name : String} {seen : List String} {value default : α}
    (h : name ∉ seen → value = default) :
    (if name ∈ seen then some value else none).getD default = value := by
  by_cases hname : name ∈ seen
  · rw [if_pos hname, Option.getD_some]
  · rw [if_neg hname, h hname, Option.getD_none]

/-- A request for a class is complete; what is missing of the rest is empty. -/
theorem ofMembers_request (request : Request) (seen : List String)
    (hmissing : ∀ part ∈ requestParts request, part.name ∉ seen → part.isOptional) :
    requestSchema.ofMembers (RequestDraft.given request seen) = .ok request := by
  simp only [requestParts, List.forall_mem_cons, imp_false, not_not] at hmissing
  obtain ⟨hclass, hfields, hmembers, -⟩ := hmissing
  simp [requestSchema, RequestDraft.given, RequestDraft.finish, hclass, getD_given hfields,
    getD_given hmembers]

/-- A spelling of a request is found to be it. -/
theorem finds_request {request : Request} {text : List Char} (h : SpellsRequest request text) :
    requestSchema.Finds text (.ok request) :=
  Schema.finds_ok (drafts_request request) rfl (takes_request request) (ofMembers_request request) h

/-! ## Documents of requests -/

/-- Whether a text is a document of requests: a request on its own, or an array of requests. -/
inductive SpellsRequests : List Request → List Char → Prop where
  | single {request : Request} {text : List Char} (h : SpellsRequest request text) :
      SpellsRequests [request] text
  | several {requests : List Request} {text : List Char}
      (h : SpellsArray SpellsRequest requests text) : SpellsRequests requests text

/-- A document of one request yields what the request does. -/
theorem yields_readRequests_object {text : List Char} {outcome : Except Path Request}
    (h : requestSchema.Finds text outcome) :
    Yields readRequests text (outcome.map fun request => [request]) := by
  obtain ⟨inside, rfl, hread⟩ := h
  intro blanks rest hblanks _
  rw [readRequests, List.cons_append, skipBlanks_blanks_append hblanks (by decide)]
  refine (located_bind _ fun found : Request × List Char => ([found.1], found.2)).trans ?_
  rw [hread rest]
  cases outcome <;> rfl

/-- A document of several requests yields what they do. -/
theorem yields_readRequests_array {elements : List (List Char)}
    {outcome : Except Path (List Request)} (h : Collects readRequest 0 elements outcome)
    (hbegins : ∀ element ∈ elements, Begins element) {text : List Char}
    (htext : SpellsArray Eq elements text) : Yields readRequests text outcome := by
  obtain ⟨inside, rfl, hread⟩ := h.located_readListBody hbegins htext
  intro blanks rest hblanks _
  rw [readRequests, List.cons_append, skipBlanks_blanks_append hblanks (by decide)]
  exact hread rest

/-- A spelling of requests is read to them. -/
theorem yields_readRequests {requests : List Request} {text : List Char}
    (h : SpellsRequests requests text) : Yields readRequests text (.ok requests) := by
  cases h with
  | single h => exact yields_readRequests_object (finds_request h)
  | several h =>
      obtain ⟨elements, htext, hbegins, hcollects⟩ :=
        h.exists_collects (fun _ _ h => (finds_request h).yields) fun _ _ => SpellsRecord.begins
      exact yields_readRequests_array hcollects hbegins htext

/-- A text is read as a document if its value is read. -/
theorem readDocument_of_yields {α β : Type} {read : Reader β} {spells : α → List Char → Prop}
    {a : α} {b : β} {text : String} (h : Padded spells a text.toList)
    (hread : ∀ inside, spells a inside → Yields read inside (.ok b)) (origin : String) :
    readDocument read origin text = .ok b := by
  obtain ⟨before, inside, after, hbefore, hinside, hafter, htext⟩ := h
  rw [readDocument, htext, (hread inside hinside).eq_ok hbefore (closes_of_isBlanks hafter)]

/-- Reading undoes writing.  A request that is written as an object, in any spelling, is read to
it.  On the command line, where an input supplies a text, a request on its own is read to a
single request, and an array to the requests that are its elements. -/
theorem read_spellings :
    (∀ origin request text, Padded SpellsRequest request text.toList →
      readDocument readRequest origin text = .ok request) ∧
    ∀ requests text, Padded SpellsRequests requests text.toList →
      (∀ origin, Command.requestsOf origin text = .ok requests) ∧
      ∀ surroundings input, Command.Supplies surroundings input text →
        (Command.loadRequests [input]).run surroundings = .ok requests := by
  refine ⟨?_, ?_⟩
  · intro origin request text h
    exact readDocument_of_yields h (fun _ h => (finds_request h).yields) origin
  · intro requests text h
    have hrequests : ∀ origin, Command.requestsOf origin text = .ok requests := by
      intro origin
      rw [Command.requestsOf, readDocument_of_yields h (fun _ => yields_readRequests) origin]
    refine ⟨hrequests, ?_⟩
    intro surroundings input hsupplies
    obtain ⟨origin, hload⟩ := hsupplies.exists_run_loadRequests
    rw [hload, hrequests origin]

/-- A request behind blanks, with a member that nobody asks for in front of its own, whose value
is written with an escape. -/
theorem read_spellings_escaped :
    let text := " \x7b\"x\":[0],\"className\":\"\\u0041\"\x7d\n"
    readDocument readRequest "a" text = .ok { className := "A" } ∧
      Command.requestsOf "a" text = .ok [{ className := "A" }] ∧
      (Command.loadRequests ["-"]).run { input := text.toUTF8 } = .ok [{ className := "A" }] := by
  intro text
  let array : List Char := Bracket.square.opening :: (['0'] ++ [Bracket.square.closing])
  let string : List Char := '"' :: ([['\\', 'u', '0', '0', '4', '1']].flatten ++ ['"'])
  let object : List Char := Bracket.curly.opening ::
    (printedString "x" ++ ':' :: array ++ ',' :: (printedString "className" ++ ':' :: string) ++
      [Bracket.curly.closing])
  have htext : text.toList = [' '] ++ (object ++ ['\n']) := by decide +kernel
  have hzero : IsNumber ['0'] :=
    ⟨['0'], [], [], @IsInteger.mk [] _ (by simp) ⟨by simp, by simp⟩ (by simp), .absent, .absent, rfl⟩
  have harray : IsJson array :=
    .array (.filled (.last (padded_self rfl))) (List.forall_mem_singleton.mpr (.number hzero))
  have hstring : SpellsString "A" string :=
    ⟨_, .cons (.unit (@SpellsUnit.digits '0' '0' '4' '1' 0 0 4 1 rfl rfl rfl rfl)) .nil, rfl⟩
  have hobject : SpellsObject SpellsString Eq [("x", array), ("className", string)] object :=
    .filled (.cons
      ⟨_, _, padded_self (spellsString_printedString "x"), padded_self rfl, rfl⟩
      (.last ⟨_, _, padded_self (spellsString_printedString "className"), padded_self rfl, rfl⟩))
  have hrequest : SpellsRequest { className := "A" } object := by
    refine ⟨_, hobject, ?_, ?_⟩
    · simp [requestParts, Part.IsGiven, hstring]
    · simp [requestParts, harray]
  have hrequests := read_spellings.2 _ text ⟨[' '], object, ['\n'], rfl, .single hrequest, rfl, htext⟩
  exact ⟨read_spellings.1 "a" _ text ⟨[' '], object, ['\n'], rfl, hrequest, rfl, htext⟩,
    hrequests.1 "a", hrequests.2 _ "-" (.standardInput rfl)⟩

end Memberwise.Document
