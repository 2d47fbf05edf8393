import Memberwise.Layout

/-!
# Templates

A template is a group of generated members that are inserted together, and the
names of the existing members that it replaces.

Main results:

- Theorem {lit}`Template.mem_delete_replacing`: a template replaces exactly those
  of its own members that exist already.
-/

namespace Memberwise

open Memberwise.Layout (Line)

/-- The kinds of template, which hosts use to find generated code again. -/
inductive TemplateKind where
  | mapTemplate
  | applyMethod
  | toString
deriving DecidableEq, Repr

namespace TemplateKind

/-- All kinds, in the order in which they are generated by default. -/
def all : List TemplateKind :=
  [mapTemplate, applyMethod, toString]

/-- The name of a kind. -/
def name : TemplateKind → String
  | mapTemplate => "MapTemplate"
  | applyMethod => "ApplyMethod"
  | toString => "ToString"

/-- The kind with exactly the given name. -/
def ofName? (text : String) : Option TemplateKind :=
  all.find? fun kind => kind.name == text

end TemplateKind

/-- A generated member of a class. -/
structure Member where
  name : String
  lines : List Line
deriving DecidableEq, Repr

/-- The text of a member. -/
def Member.render (member : Member) : String :=
  Layout.render member.lines

/-- A group of generated members. -/
structure Template where
  kind : TemplateKind
  members : List Member
  /-- The existing members that are deleted before these are inserted. -/
  delete : List String := []
deriving DecidableEq, Repr

namespace Template

/-- The names of the members of a template. -/
def memberNames (template : Template) : List String :=
  template.members.map Member.name

/-- Deletes those members that exist already, and no others. -/
def replacing (template : Template) (existing : List String) : Template :=
  { template with delete := template.memberNames.filter existing.contains }

/-- The text of a template: its members, separated by blank lines. -/
def render (template : Template) : String :=
  "\n\n".intercalate (template.members.map Member.render)

/-- A template replaces exactly those of its own members that exist already. -/
theorem mem_delete_replacing (template : Template) (existing : List String)
    (name : String) :
    name ∈ (template.replacing existing).delete ↔
      name ∈ template.memberNames ∧ name ∈ existing := by
  simp [replacing]

end Template

end Memberwise
