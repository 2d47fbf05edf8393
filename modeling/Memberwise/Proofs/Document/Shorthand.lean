import Memberwise.Proofs.Document.Spelling
import Memberwise.Proofs.Request.Distinct
import Memberwise.Proofs.Request.Refusal
import Memberwise.Proofs.Request.Validation

/-!
# Fields by name and signature

A request may give its fields as an object of names and signatures.  The members of the object are
put one after another: a name keeps the place where it is first given, and takes the signature that
it is given last.  So the request means what it means with a description for each name.

Main definitions:

- {lit}`lastSignature`: the signature that a name is given last.
- {lit}`describedOnce`: a description for each name.
- {lit}`SpellsShorthandRequest`: whether a text is a request with fields by name and signature.

Main results:

- Theorem {lit}`putAll_eq_map_distinct`: what putting signatures one after another yields.
- Theorem {lit}`generate_shorthand_eq_detailed`: both forms of fields mean the same.
-/

namespace Memberwise

open Memberwise.Text

namespace Document

open Memberwise.Json

/-! ## Last signatures -/

/-- The signature that a name is given last.  It is missing if the name is given none, or null. -/
def lastSignature (pairs : List (String × Option String)) (name : String) : Option String :=
  (pairs.reverse.lookup name).join

/-- The description of a name by the signature that it is given last. -/
def lastSpec (pairs : List (String × Option String)) (name : String) : FieldSpec where
  storageName := name
  signature? := lastSignature pairs name

/-- A description for each name, where the name is first given. -/
def describedOnce (pairs : List (String × Option String)) : List FieldSpec :=
  (distinct (pairs.map Prod.fst)).map (lastSpec pairs)

/-- A pair at the end changes the last signature of its name. -/
theorem lastSignature_concat (pairs : List (String × Option String)) (name : String)
    (signature : Option String) :
    lastSignature (pairs ++ [(name, signature)]) =
      Function.update (lastSignature pairs) name signature := by
  ext1 other
  by_cases hother : other = name
  · simp [lastSignature, hother]
  · have hdifferent : (other == name) = false := by simpa using hother
    simp [lastSignature, List.lookup_cons, hdifferent, hother]

/-- A signature is the last one of a name that is not given any more. -/
theorem lastSignature_of_not_mem {before after : List (String × Option String)} {name : String}
    (hafter : name ∉ after.map Prod.fst) (signature : Option String) :
    lastSignature (before ++ (name, signature) :: after) name = signature := by
  induction after using List.reverseRecOn with
  | nil => rw [lastSignature_concat, Function.update_self]
  | append_singleton after pair ih =>
      simp only [List.map_append, List.map_cons, List.map_nil, List.mem_append,
        List.mem_singleton, not_or] at hafter
      rw [← List.cons_append, ← List.append_assoc, lastSignature_concat,
        Function.update_of_ne hafter.2, ih hafter.1]

/-! ## Putting signatures -/

/-- Among signatures of different names, one that is put takes the place of the one that its name
has, or the place behind all others. -/
theorem put_map {names : List String} (hnames : names.Nodup) (value : String → Option String)
    (name : String) (signature : Option String) :
    Shorthand.put (names.map fun other => (other, value other)) name signature =
      (if name ∈ names then names else names ++ [name]).map fun other =>
        (other, Function.update value name signature other) := by
  induction names with
  | nil => simp [Shorthand.put]
  | cons first rest ih =>
      rcases List.nodup_cons.mp hnames with ⟨hfirst, hrest⟩
      rw [List.map_cons, Shorthand.put]
      dsimp only
      by_cases hname : first = name
      · subst first
        have hsame : rest.map (fun other => (other, value other)) =
            rest.map fun other => (other, Function.update value name signature other) := by
          refine List.map_congr_left ?_
          intro other hother
          rw [Function.update_of_ne (ne_of_mem_of_not_mem hother hfirst)]
        rw [if_pos rfl, if_pos List.mem_cons_self, List.map_cons, Function.update_self, hsame]
      · rw [if_neg hname, ih hrest]
        by_cases hmem : name ∈ rest
        · simp [hmem, hname]
        · simp [hmem, hname, Ne.symm hname]

/-- Signatures that are put one after another: each name is where it is first given, with the
signature that it is given last. -/
theorem putAll_eq_map_distinct (pairs : List (String × Option String)) :
    putAll [] pairs =
      (distinct (pairs.map Prod.fst)).map fun name => (name, lastSignature pairs name) := by
  induction pairs using List.reverseRecOn with
  | nil => rfl
  | append_singleton pairs pair ih =>
      obtain ⟨name, signature⟩ := pair
      have hput : putAll [] (pairs ++ [(name, signature)]) =
          (putAll [] pairs).put name signature := by
        rw [putAll, List.foldl_append, List.foldl_cons, List.foldl_nil, putAll]
      rw [hput, ih, put_map (nodup_distinct _), List.map_append, List.map_singleton,
        distinct_concat, lastSignature_concat]
      simp only [mem_distinct]

/-- Signatures by name describe each name once. -/
theorem specs_shorthand_putAll (pairs : List (String × Option String)) :
    (FieldList.shorthand (putAll [] pairs)).specs = describedOnce pairs := by
  rw [FieldList.specs, putAll_eq_map_distinct, List.map_map, describedOnce]
  rfl

/-! ## Requests -/

/-- Whether a text is a request whose fields are an object of names and signatures, in which names
may be repeated. -/
def SpellsShorthandRequest (className : String) (existingMembers : List String)
    (pairs : List (String × Option String)) : List Char → Prop :=
  SpellsRecord
    [⟨"className", SpellsString className, False⟩,
      ⟨"fields", SpellsObject SpellsString (SpellsOptional SpellsString) pairs, False⟩,
      ⟨"existingMembers", SpellsArray SpellsString existingMembers, existingMembers = []⟩]

/-- A request with fields by name and signature is found to have what putting them yields. -/
theorem finds_shorthandRequest {className : String} {existingMembers : List String}
    {pairs : List (String × Option String)} {text : List Char}
    (h : SpellsShorthandRequest className existingMembers pairs text) :
    requestSchema.Finds text
      (.ok { className, fields := .shorthand (putAll [] pairs), existingMembers }) := by
  let request : Request := { className, fields := .shorthand (putAll [] pairs), existingMembers }
  refine Schema.finds_ok (drafts_request request) rfl ?_ ?_ h
  · intro part hpart
    simp only [List.mem_cons, List.not_mem_nil, or_false] at hpart
    rcases hpart with rfl | rfl | rfl
    · exact takes_request request _ (by simp [requestParts, request])
    · refine Schema.takes_slotOf rfl ?_ ?_ fun _ => yields_readFieldList_pairs
      all_goals simp +contextual [RequestDraft.given, Except.map, request]
    · exact takes_request request _ (by simp [requestParts, request])
  · intro seen hmissing
    refine ofMembers_request request seen ?_
    simpa [requestParts, request] using hmissing

/-- A text in which a request is found is read to it, on its own and on the command line. -/
theorem reads_of_finds {α : Type} {spells : α → List Char → Prop} {a : α} {request : Request}
    {text : String} (h : Padded spells a text.toList)
    (hfinds : ∀ inside, spells a inside → requestSchema.Finds inside (.ok request))
    (origin : String) :
    readDocument readRequest origin text = .ok request ∧
      Command.requestsOf origin text = .ok [request] := by
  refine ⟨?_, ?_⟩
  · exact readDocument_of_yields h (fun inside hinside => (hfinds inside hinside).yields) origin
  · rw [Command.requestsOf, readDocument_of_yields h
      (fun inside hinside => yields_readRequests_object (hfinds inside hinside)) origin]

/-- Only the descriptions of its fields count in a request. -/
theorem generate_congr_specs {request request' : Request}
    (hclass : request.className = request'.className)
    (hspecs : request.fields.specs = request'.fields.specs)
    (hmembers : request.existingMembers = request'.existingMembers) (config : Config)
    (kinds : List TemplateKind) :
    generate request config kinds = generate request' config kinds := by
  rw [generate, generate, Request.resolve, Request.resolve, hspecs, hclass, hmembers]

/-- The fields of a request have the names that are described, in their order. -/
theorem map_storageName_of_resolve_eq_ok {request : Request} {fields : List Field}
    (h : request.resolve = .ok fields) :
    fields.map Field.storageName = request.fields.specs.map FieldSpec.storageName := by
  rw [Request.resolve] at h
  generalize request.fields.specs = specs at h ⊢
  have hfields := forall₂_of_mapM_eq_ok h
  clear h
  induction hfields with
  | nil => rfl
  | cons hfield _ ih =>
      rcases FieldSpec.exists_completes_of_resolve_eq_ok hfield with ⟨signature, -, hcompletes⟩
      rw [List.map_cons, List.map_cons, hcompletes.storageName, ih]

/-- A name whose last signature is null is rejected: as not resolved, unless it is not even an
identifier. -/
theorem resolve_lastSpec_of_none {pairs : List (String × Option String)} {name : String}
    (h : lastSignature pairs name = none) :
    (lastSpec pairs name).resolve =
      .error (if isIdentifier name then .unresolvedType name else .invalidName .ofField name) := by
  by_cases hname : isIdentifier name = true
  · have hmatches : name.toList ∈ identifierPattern.matches' :=
      isIdentifier_iff_mem_matches'.mp hname
    have hfails : (lastSpec pairs name).FailsCheck (.unresolvedType name) := by
      refine .signature hmatches hmatches ?_
      simp [lastSpec, h]
    rw [hfails.resolve_eq, if_pos hname]
  · have hfails : (lastSpec pairs name).FailsCheck (.invalidName .ofField name) :=
      .storageName (mt isIdentifier_iff_mem_matches'.mpr hname)
    rw [hfails.resolve_eq, if_neg hname]

/-- A name whose last signature is null makes its request fail, as not resolved if no name in front
of it is rejected. -/
theorem fails_of_lastSignature_eq_none {request : Request} {pairs : List (String × Option String)}
    (hspecs : request.fields.specs = describedOnce pairs) {name : String}
    (hname : name ∈ pairs.map Prod.fst) (hlast : lastSignature pairs name = none) :
    (∀ config kinds, ∃ rejection, generate request config kinds = .error rejection) ∧
      (isIdentifier name = true →
        (lastSpec pairs name).resolve = .error (.unresolvedType name) ∧
        ∀ earlier later, distinct (pairs.map Prod.fst) = earlier ++ name :: later →
          (∀ other ∈ earlier, (lastSpec pairs other).IsAccepted) →
          ∀ config kinds, generate request config kinds = .error (.unresolvedType name)) := by
  have hresolve := resolve_lastSpec_of_none hlast
  refine ⟨?_, ?_⟩
  · have hmem : lastSpec pairs name ∈ request.fields.specs := by
      rw [hspecs, describedOnce]
      exact List.mem_map_of_mem (mem_distinct.mpr hname)
    obtain ⟨rejection, hrefused⟩ :=
      (exists_refused_iff.mpr (Or.inl ⟨_, hmem, _, hresolve⟩) :
        ∃ rejection, Refused request.className request.fields.specs rejection)
    intro config kinds
    exact ⟨rejection, generate_eq_error_iff.mpr hrefused⟩
  · intro hidentifier
    rw [if_pos hidentifier] at hresolve
    refine ⟨hresolve, ?_⟩
    intro earlier later hnames hearlier config kinds
    have hsplit : request.fields.specs =
        earlier.map (lastSpec pairs) ++ lastSpec pairs name :: later.map (lastSpec pairs) := by
      rw [hspecs, describedOnce, hnames, List.map_append, List.map_cons]
    exact generate_eq_error_iff.mpr
      (.ofField hsplit (List.forall_mem_map.mpr hearlier) hresolve)

/-- Fields by name and signature mean the same as a description for each name, at the place where
the name is first given and with the signature that it is given last.  So the fields keep their
order.  A request with a name whose last signature is null fails, as not resolved if no name in
front of it is rejected. -/
theorem generate_shorthand_eq_detailed (className : String) (existingMembers : List String)
    (pairs : List (String × Option String)) (shorthandText detailedText : String)
    (hshorthand : Padded (SpellsShorthandRequest className existingMembers) pairs
      shorthandText.toList)
    (hdetailed : Padded SpellsRequest
      { className, fields := .detailed (describedOnce pairs), existingMembers }
      detailedText.toList) :
    ∃ shorthand detailed : Request,
      (∀ origin, readDocument readRequest origin shorthandText = .ok shorthand ∧
        Command.requestsOf origin shorthandText = .ok [shorthand]) ∧
      (∀ origin, readDocument readRequest origin detailedText = .ok detailed ∧
        Command.requestsOf origin detailedText = .ok [detailed]) ∧
      (∀ config kinds, generate shorthand config kinds = generate detailed config kinds) ∧
      (∀ fields, shorthand.resolve = .ok fields →
        fields.map Field.storageName = distinct (pairs.map Prod.fst)) ∧
      ∀ before name after, pairs = before ++ (name, none) :: after → name ∉ after.map Prod.fst →
        (∀ config kinds, ∃ rejection, generate shorthand config kinds = .error rejection) ∧
        (isIdentifier name = true →
          (lastSpec pairs name).resolve = .error (.unresolvedType name) ∧
          ∀ earlier later, distinct (pairs.map Prod.fst) = earlier ++ name :: later →
            (∀ other ∈ earlier, (lastSpec pairs other).IsAccepted) →
            ∀ config kinds, generate shorthand config kinds = .error (.unresolvedType name)) := by
  let shorthand : Request := { className, fields := .shorthand (putAll [] pairs), existingMembers }
  let detailed : Request :=
    { className, fields := .detailed (describedOnce pairs), existingMembers }
  have hspecs : shorthand.fields.specs = describedOnce pairs := specs_shorthand_putAll pairs
  refine ⟨shorthand, detailed, ?_, ?_, ?_, ?_, ?_⟩
  · exact reads_of_finds hshorthand fun _ => finds_shorthandRequest
  · exact reads_of_finds hdetailed fun _ => finds_request
  · exact generate_congr_specs rfl hspecs rfl
  · intro fields hfields
    rw [map_storageName_of_resolve_eq_ok hfields, hspecs, describedOnce, List.map_map]
    exact List.map_id _
  · intro before name after hpairs hafter
    refine fails_of_lastSignature_eq_none hspecs (by simp [hpairs]) ?_
    rw [hpairs]
    exact lastSignature_of_not_mem hafter none

/-- A name that is given a type first and null last, with another name between.  The description of
the name comes first, and has no signature. -/
theorem generate_shorthand_eq_detailed_null :
    let shorthandText := "\x7b\"className\":\"A\",\"fields\":" ++
      "\x7b\"a\":\"int\",\"b\":\"bool\",\"a\":null\x7d\x7d"
    let detailedText := "\x7b\"className\":\"A\",\"fields\":[\x7b\"variableName\":\"a\"\x7d," ++
      "\x7b\"variableName\":\"b\",\"typeSignature\":\"bool\"\x7d]\x7d"
    ∃ shorthand detailed,
      readDocument readRequest "a" shorthandText = .ok shorthand ∧
      readDocument readRequest "a" detailedText = .ok detailed ∧
      ∀ config kinds, generate shorthand config kinds = generate detailed config kinds ∧
        generate shorthand config kinds = .error (.unresolvedType "a") := by
  intro shorthandText detailedText
  let pairs := [("a", some "int"), ("b", some "bool"), ("a", none)]
  let curly : List Char → List Char := fun members =>
    Bracket.curly.opening :: (members ++ [Bracket.curly.closing])
  let member : String → List Char → List Char := fun name value =>
    printedString name ++ ':' :: value
  let request : List Char → List Char := fun fields =>
    curly (member "className" (printedString "A") ++ ',' :: member "fields" fields)
  let signatures : List Char := curly (member "a" (printedString "int") ++
    ',' :: (member "b" (printedString "bool") ++ ',' :: member "a" ['n', 'u', 'l', 'l']))
  let first : List Char := curly (member "variableName" (printedString "a"))
  let second : List Char := curly (member "variableName" (printedString "b") ++
    ',' :: member "typeSignature" (printedString "bool"))
  let fields : List Char :=
    Bracket.square.opening :: (first ++ ',' :: second ++ [Bracket.square.closing])
  have hshorthandText : shorthandText.toList = [] ++ (request signatures ++ []) := by decide +kernel
  have hdetailedText : detailedText.toList = [] ++ (request fields ++ []) := by decide +kernel
  have hmember : ∀ {α : Type} {spells : α → List Char → Prop} {a : α} (name : String)
      {value : List Char}, spells a value →
      SpellsMember SpellsString spells (name, a) (member name value) :=
    fun name _ h => ⟨_, _, padded_self (spellsString_printedString name), padded_self h, rfl⟩
  have hsignatures : SpellsObject SpellsString (SpellsOptional SpellsString) pairs signatures :=
    .filled (.cons (hmember "a" (spellsString_printedString "int"))
      (.cons (hmember "b" (spellsString_printedString "bool")) (.last (hmember "a" rfl))))
  have hfirst : SpellsField { storageName := "a" } first := by
    refine ⟨_, .filled (.last (hmember "variableName" rfl)), ?_, ?_⟩
    · simp [fieldParts, Part.IsGiven, spellsString_printedString]
    · simp [fieldParts]
  have hsecond : SpellsField { storageName := "b", signature? := some "bool" } second := by
    refine ⟨_, .filled (.cons (hmember "variableName" rfl)
      (.last (hmember "typeSignature" rfl))), ?_, ?_⟩
    · simp [fieldParts, Part.IsGiven, SpellsOptional, spellsString_printedString]
    · simp [fieldParts]
  have hfields : SpellsArray SpellsField (describedOnce pairs) fields :=
    .filled (.cons (padded_self hfirst) (.last (padded_self hsecond)))
  have hshorthand : SpellsShorthandRequest "A" [] pairs (request signatures) := by
    refine ⟨_, .filled (.cons (hmember "className" rfl) (.last (hmember "fields" rfl))), ?_, ?_⟩
    · simp [Part.IsGiven, spellsString_printedString, hsignatures]
    · simp
  have hdetailed : SpellsRequest
      { className := "A", fields := .detailed (describedOnce pairs) } (request fields) := by
    refine ⟨_, .filled (.cons (hmember "className" rfl) (.last (hmember "fields" rfl))), ?_, ?_⟩
    · simp [requestParts, SpellsFieldList, Part.IsGiven, spellsString_printedString, hfields]
    · simp [requestParts]
  obtain ⟨shorthand, detailed, hreadShorthand, hreadDetailed, hgenerate, -, hnull⟩ :=
    generate_shorthand_eq_detailed "A" [] pairs shorthandText detailedText
      ⟨[], _, [], rfl, hshorthand, rfl, hshorthandText⟩
      ⟨[], _, [], rfl, hdetailed, rfl, hdetailedText⟩
  have hunresolved :=
    ((hnull [("a", some "int"), ("b", some "bool")] "a" [] rfl (by simp)).2 (by decide +kernel)).2
      [] ["b"] (by decide +kernel) (by simp)
  exact ⟨shorthand, detailed, (hreadShorthand "a").1, (hreadDetailed "a").1, fun config kinds =>
    ⟨hgenerate config kinds, hunresolved config kinds⟩⟩

end Document

end Memberwise
