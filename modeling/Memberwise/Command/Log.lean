import Memberwise.Command.Filter
import Memberwise.Request
import Memberwise.Text.Quoted

/-!
# Logging

The events of a run that may be shown.

Main definitions:

- {lit}`Event`: what happens.
- {lit}`Event.traits`: what a filter knows of it.
- {lit}`Event.line`: how it is shown.
-/

namespace Memberwise.Command

/-- What happens during a run. -/
inductive Event where
  | loadedRequests (count : Nat) (kinds : List TemplateKind)
  | resolvedField (name signature : String)
  | generatingTemplates (className : String) (fields : Nat)
  | assembling (kind : TemplateKind)
deriving DecidableEq, Repr

namespace Event

/-- What a filter knows of an event.  The words with which it is shown are a field of
it too. -/
def traits : Event → EventTraits
  | loadedRequests _ _ =>
      ⟨.debug, "dart_data_gen::cli", ["message", "requests", "kinds"]⟩
  | resolvedField _ _ =>
      ⟨.trace, "dart_data_gen::generator", ["message", "field", "signature"]⟩
  | generatingTemplates _ _ =>
      ⟨.debug, "dart_data_gen::generator", ["message", "class", "fields"]⟩
  | assembling _ => ⟨.trace, "dart_data_gen::generator", ["message", "kind"]⟩

/-- How an event is shown. -/
def line : Event → String
  | loadedRequests count kinds =>
      "DEBUG loaded requests requests=" ++ Nat.repr count ++ " kinds=["
        ++ ", ".intercalate (kinds.map TemplateKind.name) ++ "]"
  | resolvedField name signature =>
      "TRACE resolved field field=" ++ Text.quoted name ++ " signature="
        ++ Text.quoted signature
  | generatingTemplates className fields =>
      "DEBUG generating templates class=" ++ Text.quoted className ++ " fields="
        ++ Nat.repr fields
  | assembling kind => "TRACE assembling kind=" ++ kind.name

/-- The lines of the events that a filter shows. -/
def shown (filter : Filter) (events : List Event) : List String :=
  (events.filter fun event => filter.shows event.traits).map line

/-- The events of answering a request.  Fields are only mentioned once all of them have
been accepted. -/
def ofRequest (request : Request) (kinds : List TemplateKind) : List Event :=
  match request.resolve with
  | .error _ => []
  | .ok fields =>
      (fields.map fun field => resolvedField field.storageName field.signature)
        ++ match checkClassName request.className with
          | .error _ => []
          | .ok () =>
              generatingTemplates request.className fields.length
                :: (distinct kinds).map assembling

end Event

end Memberwise.Command
