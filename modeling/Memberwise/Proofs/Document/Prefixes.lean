import Memberwise.Command.Run
import Memberwise.Proofs.Document.Requests

/-!
# What follows a document

A document ends with the closing bracket of its value, and nobody asks for the end of the text.  So
a text that is accepted stays accepted, with the same result, whatever is written behind it, and its
result is settled by the first value in it.

Main definitions:

- {lit}`IsFirstValue`: whether a text is accepted and nothing less at its front is.
- {lit}`SettledByFirstValue`: whether nothing behind the first value changes a result.

Main results:

- Theorem {lit}`selfDelimiting_readConfig`: configurations end with their closing bracket.
- Theorem {lit}`settledByFirstValue_of_append`: what may be continued is settled by the first value.
- Theorem {lit}`documents_settledByFirstValue`: requests, configurations, fields and the documents
  of the command line are.
-/

namespace Memberwise.Document

open Memberwise.Json

/-! ## Ends of configurations -/

/-- Options end with their closing bracket. -/
theorem selfDelimiting_optionsSchema : SelfDelimiting optionsSchema.read := by
  apply Schema.selfDelimiting_read
  intro slot hslot state
  simp only [optionsSchema, List.mem_cons, List.not_mem_nil, or_false] at hslot
  rcases hslot with rfl | rfl | rfl
  all_goals exact isLocal_read_slotOf _ _ _ selfDelimiting_readBoolean.isLocal state

/-- Names end with their closing bracket. -/
theorem selfDelimiting_namesSchema : SelfDelimiting namesSchema.read := by
  apply Schema.selfDelimiting_read
  intro slot hslot state
  simp only [namesSchema, List.mem_cons, List.not_mem_nil, or_false] at hslot
  rcases hslot with rfl | rfl | rfl | rfl | rfl | rfl | rfl
  all_goals exact isLocal_read_slotOf _ _ _ selfDelimiting_readText.isLocal state

/-- Configurations end with their closing bracket. -/
theorem selfDelimiting_readConfig : SelfDelimiting readConfig := by
  apply Schema.selfDelimiting_read
  intro slot hslot state
  simp only [configSchema, List.mem_cons, List.not_mem_nil, or_false] at hslot
  rcases hslot with rfl | rfl
  · exact isLocal_read_slotOf _ _ _ selfDelimiting_optionsSchema.isLocal state
  · exact isLocal_read_slotOf _ _ _ selfDelimiting_namesSchema.isLocal state

/-! ## First values -/

section FirstValues

variable {ε α : Type} {read : String → Except ε α}

/-- Whether a text is accepted, while nothing less at its front is. -/
def IsFirstValue (read : String → Except ε α) (value : String) : Prop :=
  (∃ a, read value = .ok a) ∧
    ∀ shorter more, value = shorter ++ more → more ≠ "" → ∀ a, read shorter ≠ .ok a

/-- Whether the result of a text that is accepted is settled by the first value in it.  It remains
the same if anything is written behind the text, or behind the value instead of what is there. -/
def SettledByFirstValue (read : String → Except ε α) : Prop :=
  ∀ ⦃text : String⦄ ⦃a : α⦄, read text = .ok a →
    (∀ more, read (text ++ more) = .ok a) ∧
      ∃ value behind, text = value ++ behind ∧ IsFirstValue read value ∧
        ∀ other, read (value ++ other) = .ok a

/-- A text that is accepted begins with a first value, which has the same result if texts can be
continued. -/
theorem exists_isFirstValue
    (hread : ∀ ⦃text a⦄, read text = .ok a → ∀ more, read (text ++ more) = .ok a)
    {text : String} {a : α} (h : read text = .ok a) :
    ∃ value behind, text = value ++ behind ∧ IsFirstValue read value ∧ read value = .ok a := by
  by_cases hshorter : ∃ shorter more, text = shorter ++ more ∧ more ≠ "" ∧ ∃ b, read shorter = .ok b
  · rcases hshorter with ⟨shorter, more, htext, hmore, b, hb⟩
    -- The part has the result of the whole, since the whole continues it.
    have hresult : b = a := by
      have happend := hread hb more
      rw [← htext, h] at happend
      exact (Except.ok.inj happend).symm
    subst hresult
    have hlength : shorter.length < text.length := by
      have hpositive : 0 < more.length :=
        Nat.pos_of_ne_zero fun hzero => hmore (String.length_eq_zero_iff.mp hzero)
      rw [htext, String.length_append]
      omega
    rcases exists_isFirstValue hread hb with ⟨value, behind, hvalue, hfirst, hok⟩
    refine ⟨value, behind ++ more, ?_, hfirst, hok⟩
    rw [htext, hvalue, String.append_assoc]
  · refine ⟨text, "", String.append_empty.symm, ⟨⟨a, h⟩, ?_⟩, h⟩
    intro shorter more htext hmore b hb
    exact hshorter ⟨shorter, more, htext, hmore, b, hb⟩
termination_by text.length

/-- What may be continued is settled by the first value. -/
theorem settledByFirstValue_of_append
    (hread : ∀ ⦃text a⦄, read text = .ok a → ∀ more, read (text ++ more) = .ok a) :
    SettledByFirstValue read := by
  intro text a h
  rcases exists_isFirstValue hread h with ⟨value, behind, htext, hfirst, hvalue⟩
  exact ⟨hread h, value, behind, htext, hfirst, hread hvalue⟩

end FirstValues

/-! ## Documents -/

/-- A document is accepted as its reader accepts the front of it. -/
theorem readDocument_eq_ok_iff {α : Type} {read : Reader α} {origin text : String} {a : α} :
    readDocument read origin text = .ok a ↔ ∃ rest, read text.toList = .ok (a, rest) := by
  unfold readDocument
  cases hread : read text.toList with
  | error fault => simp
  | ok found =>
      obtain ⟨value, rest⟩ := found
      simp

/-- A document may be continued if its values end themselves. -/
theorem readDocument_append {α : Type} {read : Reader α} (hread : SelfDelimiting read)
    {origin text : String} {a : α} (h : readDocument read origin text = .ok a) (more : String) :
    readDocument read origin (text ++ more) = .ok a := by
  rcases readDocument_eq_ok_iff.mp h with ⟨rest, hrest⟩
  rw [readDocument_eq_ok_iff, String.toList_append]
  exact ⟨_, hread hrest more.toList⟩

/-- A document of a field may be continued. -/
theorem fieldOfDocument_append {origin text : String} {field : Field}
    (h : fieldOfDocument origin text = .ok field) (more : String) :
    fieldOfDocument origin (text ++ more) = .ok field := by
  rcases bind_eq_ok_iff.mp h with ⟨spec, hspec, hfield⟩
  exact bind_eq_ok_iff.mpr
    ⟨spec, readDocument_append selfDelimiting_readFieldSpec hspec more, hfield⟩

/-- A document of requests on the command line may be continued. -/
theorem requestsOf_append {origin text : String} {requests : List Request}
    (h : Command.requestsOf origin text = .ok requests) (more : String) :
    Command.requestsOf origin (text ++ more) = .ok requests := by
  unfold Command.requestsOf at h ⊢
  split at h
  · rename_i hread
    rw [readDocument_append selfDelimiting_readRequests hread more]
    exact h
  · contradiction

/-- Whatever follows a text that is accepted as a request, as a configuration, as a field or as a
document of the command line, it is accepted with the same result.  What settles the result is the
first value in the text. -/
theorem documents_settledByFirstValue (origin : String) :
    SettledByFirstValue (readDocument readRequest origin) ∧
      SettledByFirstValue (readDocument readConfig origin) ∧
      SettledByFirstValue (fieldOfDocument origin) ∧
      SettledByFirstValue (Command.requestsOf origin) := by
  refine ⟨?_, ?_, ?_, ?_⟩
  · exact settledByFirstValue_of_append fun _ _ => readDocument_append selfDelimiting_readRequest
  · exact settledByFirstValue_of_append fun _ _ => readDocument_append selfDelimiting_readConfig
  · exact settledByFirstValue_of_append fun _ _ => fieldOfDocument_append
  · exact settledByFirstValue_of_append fun _ _ => requestsOf_append

/-- A request that is followed by half of another one. -/
theorem documents_settledByFirstValue_half :
    readDocument readRequest "a" "\x7b\"className\":\"A\"\x7d" = .ok { className := "A" } ∧
      readDocument readRequest "a" ("\x7b\"className\":\"A\"\x7d" ++ ",\x7b\"className\":") =
        .ok { className := "A" } := by
  have haccepted :
      readDocument readRequest "a" "\x7b\"className\":\"A\"\x7d" = .ok { className := "A" } := by
    cbv
  exact ⟨haccepted, ((documents_settledByFirstValue "a").1 haccepted).1 _⟩

end Memberwise.Document
