import Memberwise.Document.Request
import Memberwise.Proofs.Json.Records

/-!
# Texts that hold requests

A document of requests holds one request, which is written as an object, or an array of them.
Requests end with their closing brace, so each is read from an array as it is read on its own.

Main definitions:

- {lit}`HoldsRequest`: whether a text holds a request and nothing else.
- {lit}`HoldsRequests`: whether the front of a text holds a request, or an array of some.

Main results:

- Theorem {lit}`selfDelimiting_readRequest`: requests end with their closing bracket.
- Theorem {lit}`readRequests_of_holds`: a document is read to the requests that it holds.
-/

namespace Memberwise.Document

open Memberwise.Json

/-! ## Ends of requests -/

/-- Where there is no text there is no string. -/
theorem readText_nil (result : String × List Char) : readText [] ≠ .ok result :=
  mismatch_ne_ok "a string" [] result

/-- Where there is no text there is no truth value. -/
theorem readBoolean_nil (result : Bool × List Char) : readBoolean [] ≠ .ok result :=
  mismatch_ne_ok "a boolean" [] result

/-- Descriptions of fields end with their closing bracket. -/
theorem selfDelimiting_readFieldSpec : SelfDelimiting readFieldSpec := by
  have htext := selfDelimiting_readText.isLocal
  have htext? := (selfDelimiting_readOptional selfDelimiting_readText readText_nil).isLocal
  have hboolean? :=
    (selfDelimiting_readOptional selfDelimiting_readBoolean readBoolean_nil).isLocal
  refine Schema.selfDelimiting_read ?_
  intro slot hslot state
  simp only [fieldSchema, List.mem_cons, List.not_mem_nil, or_false] at hslot
  rcases hslot with rfl | rfl | rfl | rfl | rfl
  · exact isLocal_read_slotOf _ _ _ htext state
  · exact isLocal_read_slotOf _ _ _ htext? state
  · exact isLocal_read_slotOf _ _ _ htext? state
  · exact isLocal_read_slotOf _ _ _ htext? state
  · exact isLocal_read_slotOf _ _ _ hboolean? state

/-- The signature of a field that is only given by its name ends itself. -/
theorem isLocal_shorthandMember {name : String} {fields : Shorthand} {read : Reader Shorthand}
    (h : shorthandMember name fields = .ok read) : IsLocal read := by
  cases h
  have hsignature := selfDelimiting_readOptional selfDelimiting_readText readText_nil
  exact hsignature.isLocal.map (fields.put name)

/-- The fields of a request end with their closing bracket, in either form. -/
theorem selfDelimiting_readFieldList : SelfDelimiting readFieldList := by
  intro text rest value h more
  unfold readFieldList at h
  split at h
  · rename_i tail hskip
    rcases bind_eq_ok_iff.mp h with ⟨⟨specs, after⟩, hspecs, hfound⟩
    cases hfound
    have hmore := selfDelimiting_readListBody selfDelimiting_readFieldSpec.isLocal hspecs more
    simp only [readFieldList, skipBlanks_append hskip, hmore, ok_bind]
  · rename_i tail hskip
    rcases bind_eq_ok_iff.mp h with ⟨⟨signatures, after⟩, hsignatures, hfound⟩
    cases hfound
    have hmore := selfDelimiting_readObjectBody isLocal_shorthandMember _ hsignatures more
    simp only [readFieldList, skipBlanks_append hskip, hmore, ok_bind]
  · exact absurd h (mismatch_ne_ok _ _ _)

/-- The members of a request are local. -/
theorem isLocal_requestSchema :
    ∀ slot ∈ requestSchema.slots, ∀ state, IsLocal (slot.read state) := by
  intro slot hslot state
  simp only [requestSchema, List.mem_cons, List.not_mem_nil, or_false] at hslot
  rcases hslot with rfl | rfl | rfl
  · exact isLocal_read_slotOf _ _ _ selfDelimiting_readText.isLocal state
  · exact isLocal_read_slotOf _ _ _ selfDelimiting_readFieldList.isLocal state
  · exact isLocal_read_slotOf _ _ _
      (selfDelimiting_readList selfDelimiting_readText.isLocal).isLocal state

/-- Requests end with their closing bracket. -/
theorem selfDelimiting_readRequest : SelfDelimiting readRequest :=
  Schema.selfDelimiting_read isLocal_requestSchema

/-- Documents of requests end with their closing bracket. -/
theorem selfDelimiting_readRequests : SelfDelimiting readRequests := by
  intro text rest value h more
  unfold readRequests at h
  split at h
  · rename_i tail hskip
    rcases bind_eq_ok_iff.mp h with ⟨⟨request, after⟩, hrequest, hfound⟩
    cases hfound
    have hmore := Schema.selfDelimiting_readObject isLocal_requestSchema hrequest more
    simp only [readRequests, skipBlanks_append hskip, hmore, ok_bind]
  · rename_i tail hskip
    have hmore := selfDelimiting_readListBody selfDelimiting_readRequest.isLocal h more
    simp only [readRequests, skipBlanks_append hskip, hmore]
  · exact absurd h (mismatch_ne_ok _ _ _)

/-! ## Requests in documents -/

/-- Whether a text holds a request, written as an object, and nothing but blanks around it. -/
structure HoldsRequest (text : List Char) (request : Request) : Prop where
  isObject : (skipBlanks text).head? = some '{'
  read : ∃ blanks, readRequest text = .ok (request, blanks) ∧ skipBlanks blanks = []

/-- Whether the front of a text holds requests with commas between them and a bracket behind
the last one. -/
inductive HoldsElements : List Char → List Request → Prop where
  | last {text : List Char} {request : Request} (h : HoldsRequest text request)
      (rest : List Char) : HoldsElements (text ++ ']' :: rest) [request]
  | cons {text more : List Char} {request : Request} {requests : List Request}
      (h : HoldsRequest text request) (hmore : HoldsElements more requests) :
      HoldsElements (text ++ ',' :: more) (request :: requests)

/-- Whether the front of a text holds a request that is written as an object, or an array of
such requests. -/
inductive HoldsRequests : List Char → List Request → Prop where
  | object {text : List Char} {request : Request} (h : HoldsRequest text request)
      (rest : List Char) : HoldsRequests (text ++ rest) [request]
  | empty {before blanks : List Char} (hbefore : skipBlanks before = [])
      (hblanks : skipBlanks blanks = []) (rest : List Char) :
      HoldsRequests (before ++ '[' :: (blanks ++ ']' :: rest)) []
  | array {before text : List Char} {requests : List Request}
      (hbefore : skipBlanks before = []) (h : HoldsElements text requests) :
      HoldsRequests (before ++ '[' :: text) requests

/-- A text that holds a request and nothing else holds one request. -/
theorem HoldsRequest.holdsRequests {text : List Char} {request : Request}
    (h : HoldsRequest text request) : HoldsRequests text [request] := by
  have hobject := HoldsRequests.object h []
  rwa [List.append_nil] at hobject

/-- A request that is followed by more is read as it is read on its own. -/
theorem HoldsRequest.readObject_append {text : List Char} {request : Request}
    (h : HoldsRequest text request) :
    ∃ tail blanks, skipBlanks text = '{' :: tail ∧ skipBlanks blanks = [] ∧
      ∀ more, requestSchema.readObject (tail ++ more) = .ok (request, blanks ++ more) := by
  rcases h.read with ⟨blanks, hread, hblanks⟩
  obtain ⟨tail, hskip⟩ := List.head?_eq_some_iff.mp h.isObject
  refine ⟨tail, blanks, hskip, hblanks, ?_⟩
  intro more
  have hobject : requestSchema.readObject tail = .ok (request, blanks) := by
    simpa only [readRequest, Schema.read, hskip] using hread
  exact Schema.selfDelimiting_readObject isLocal_requestSchema hobject more

/-- Requests in an array start with a brace. -/
theorem HoldsElements.exists_skipBlanks {text : List Char} {requests : List Request}
    (h : HoldsElements text requests) : ∃ tail, skipBlanks text = '{' :: tail := by
  cases h with
  | last h rest =>
      obtain ⟨tail, -, hskip, -, -⟩ := h.readObject_append
      exact ⟨_, skipBlanks_append hskip _⟩
  | cons h hmore =>
      obtain ⟨tail, -, hskip, -, -⟩ := h.readObject_append
      exact ⟨_, skipBlanks_append hskip _⟩

/-- Each request in an array takes a character at least. -/
theorem HoldsElements.length_le {text : List Char} {requests : List Request}
    (h : HoldsElements text requests) : requests.length ≤ text.length := by
  induction h with
  | last h rest =>
      simp only [List.length_append, List.length_cons, List.length_nil]
      omega
  | cons h hmore ih =>
      simp only [List.length_append, List.length_cons]
      omega

/-- A request that comes next in an array is read as it is read on its own. -/
theorem HoldsRequest.readElements_append {text : List Char} {request : Request}
    (h : HoldsRequest text request) :
    ∃ blanks, skipBlanks blanks = [] ∧ ∀ {bound index : Nat} {front more : List Char},
      nextElement (index == 0) front = .ok (true, skipBlanks (text ++ more)) →
        readElements readRequest (bound + 1) index front =
          readElements readRequest bound (index + 1) (blanks ++ more) >>= fun found =>
            .ok (request :: found.1, found.2) := by
  obtain ⟨tail, blanks, hskip, hblanks, hread⟩ := h.readObject_append
  refine ⟨blanks, hblanks, ?_⟩
  intro bound index front more hfront
  have hrequest : readRequest ('{' :: (tail ++ more)) = .ok (request, blanks ++ more) :=
    hread more
  rw [skipBlanks_append hskip] at hfront
  rw [readElements, hfront, ok_bind]
  simp only [if_true, hrequest, below, ok_bind]

/-- Requests in an array are read in order, from where the first of them has been found. -/
theorem HoldsElements.readElements {text : List Char} {requests : List Request}
    (h : HoldsElements text requests) {bound index : Nat} (hbound : requests.length < bound)
    {front : List Char} (hfront : nextElement (index == 0) front = .ok (true, skipBlanks text)) :
    ∃ rest, Json.readElements readRequest bound index front = .ok (requests, rest) := by
  obtain ⟨bound, rfl⟩ := Nat.exists_eq_add_one_of_ne_zero (by omega : bound ≠ 0)
  induction h generalizing bound index front with
  | last h rest =>
      obtain ⟨blanks, hblanks, hread⟩ := h.readElements_append
      obtain ⟨bound, rfl⟩ := Nat.exists_eq_add_one_of_ne_zero (by simp at hbound; omega : bound ≠ 0)
      refine ⟨rest, ?_⟩
      rw [hread hfront, readElements_closing readRequest hblanks, ok_bind]
  | cons h hmore ih =>
      rename_i element more request requests
      obtain ⟨blanks, hblanks, hread⟩ := h.readElements_append
      obtain ⟨bound, rfl⟩ := Nat.exists_eq_add_one_of_ne_zero (by simp at hbound; omega : bound ≠ 0)
      obtain ⟨tail, htail⟩ := hmore.exists_skipBlanks
      have hcomma := skipBlanks_blanks_append hblanks (by decide : isBlank ',' = false) more
      have hnext : nextElement (index + 1 == 0) (blanks ++ ',' :: more) =
          .ok (true, skipBlanks more) := by
        simp [nextElement, hcomma, htail]
      have hlength : requests.length < bound + 1 := by
        simp only [List.length_cons] at hbound
        omega
      obtain ⟨rest, hrest⟩ := ih hnext bound hlength
      refine ⟨rest, ?_⟩
      rw [hread hfront, hrest, ok_bind]

/-- A document is read to the requests that it holds. -/
theorem readRequests_of_holds {text : List Char} {requests : List Request}
    (h : HoldsRequests text requests) :
    ∃ rest, readRequests text = .ok (requests, rest) := by
  cases h with
  | object h rest =>
      obtain ⟨tail, blanks, hskip, -, hread⟩ := h.readObject_append
      refine ⟨blanks ++ rest, ?_⟩
      simp only [readRequests, skipBlanks_append hskip, hread, ok_bind]
  | empty hbefore hblanks rest =>
      have hskip := skipBlanks_blanks_append hbefore (by decide : isBlank '[' = false)
      refine ⟨rest, ?_⟩
      simp only [readRequests, hskip, readListBody, readElements_closing readRequest hblanks]
  | array hbefore h =>
      have hskip := skipBlanks_blanks_append hbefore (by decide : isBlank '[' = false)
      obtain ⟨tail, htail⟩ := h.exists_skipBlanks
      have hlength := h.length_le
      simp only [readRequests, hskip, readListBody]
      refine h.readElements (by omega) ?_
      simp [nextElement, htail]

end Memberwise.Document
