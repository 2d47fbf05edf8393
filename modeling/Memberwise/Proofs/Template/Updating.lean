import Memberwise.Proofs.Dart.Execution
import Memberwise.Proofs.Results
import Memberwise.Proofs.Template.Scoping

/-!
# What the update does

The lines of the update are read back to a method, and the method is executed.  It overwrites the
fields whose argument is not null, and leaves alone all else, even if a field is called like the
parameter of another one.

Main definitions:

- {lit}`readMethod`: the reader of a method with optional parameters.
- {lit}`IsPartialUpdate`: whether a heap is the result of a partial update.

Main results:

- Theorem {lit}`readMethod_applyMember`: the update is read, with a parameter and a statement for
  each field.
- Theorem {lit}`run_guardedAssignments`: guarded assignments are a partial update.
- Theorem {lit}`applyMember_updates`: the update is a partial update.
-/

namespace Memberwise

open Memberwise.Text Memberwise.Dart Memberwise.Layout Memberwise.Template

/-! ## Reading methods -/

/-- A method whose parameters are named and optional. -/
structure Method where
  parameters : List Parameter
  body : List Statement
deriving DecidableEq, Repr

/-- Reads the line of a parameter: behind its type and a blank stands its name, and a comma. -/
def readParameter (line : List Char) : Option Parameter :=
  match line.reverse with
  | ',' :: before =>
      let name := String.ofList (before.takeWhile isIdentifierRest).reverse
      match before.dropWhile isIdentifierRest with
      | ' ' :: type =>
          if isIdentifier name then some ⟨String.ofList type.reverse, name⟩ else none
      | _ => none
  | _ => none

/-- The line that closes the parameters and opens the body of a method. -/
def closesParameters : List Char :=
  ['\x7d', ')', ' ', '\x7b']

/-- Whether a line opens the body of a method without parameters. -/
def opensBody (line : List Char) : Bool :=
  match line.reverse with
  | '\x7b' :: ' ' :: ')' :: '(' :: _ => true
  | _ => false

/-- Reads the body of a method, one statement on each line, up to the line that closes it. -/
def readBody (lines : List (List Char)) : Option (List Statement) :=
  if lines.getLast? = some ['\x7d'] then lines.dropLast.mapM readStatement else none

/-- Reads the lines of a method.  No two parameters may have the same name. -/
def readMethod : List (List Char) → Option Method
  | [] => none
  | header :: lines =>
      if opensParameters header then
        match lines.dropWhile (· != closesParameters) with
        | [] => none
        | _ :: behind => do
            let parameters ← (lines.takeWhile (· != closesParameters)).mapM readParameter
            let body ← readBody behind
            if (parameters.map Parameter.name).Nodup then some ⟨parameters, body⟩ else none
      else if opensBody header then
        (readBody lines).map fun body => ⟨[], body⟩
      else none

/-- What a method does when it is called on an object: the value that it returns, and the heap
after it. -/
def Method.call {Object : Type} [DecidableEq Object] (method : Method) (heap : Heap Object)
    (receiver : Object) (arguments : String → Value Object) : Value Object × Heap Object :=
  run ⟨receiver, method.parameters.map Parameter.name, arguments⟩ heap method.body

/-! ## Reading the update -/

/-- The line of a parameter is read. -/
theorem readParameter_text {parameter : Parameter} (hname : isIdentifier parameter.name = true) :
    readParameter parameter.text.toList = some parameter := by
  have hreverse : parameter.text.toList.reverse =
      ',' :: (parameter.name.toList.reverse ++ ' ' :: parameter.type.toList.reverse) := by
    simp [Parameter.text]
  have hrun : ∀ c ∈ parameter.name.toList.reverse, isIdentifierRest c = true := by
    intro c hc
    exact isIdentifierRest_of_mem hname (List.mem_reverse.mp hc)
  have hstop : ∀ c ∈ (' ' :: parameter.type.toList.reverse).head?, isIdentifierRest c = false := by
    intro c hc
    cases hc
    decide
  have hspan := takeWhile_and_dropWhile_append hrun hstop
  rw [readParameter, hreverse]
  simp only [hspan.1, hspan.2, List.reverse_reverse, String.ofList_toList, if_pos hname]

/-- The line of an assignment is read. -/
theorem readStatement_text {assignment : Assignment}
    (htarget : isIdentifier assignment.target = true)
    (hparameter : isIdentifier assignment.parameter = true) :
    readStatement assignment.text.toList =
      some (guardedAssignment assignment.target assignment.parameter) := by
  rw [← readStatement_append htarget hparameter]
  simp [Assignment.text]

/-- The line of a parameter does not close the parameters. -/
theorem parameter_text_ne_closesParameters (parameter : Parameter) :
    parameter.text.toList ≠ closesParameters := by
  have hlast : parameter.text.toList.getLast? = some ',' := by
    rw [Parameter.text, String.toList_append]
    exact List.getLast?_concat
  intro h
  rw [h] at hlast
  exact absurd hlast (by decide)

/-- Statements are read as a body if they are read line by line. -/
theorem readBody_append {lines : List (List Char)} {statements : List Statement}
    (h : lines.mapM readStatement = some statements) :
    readBody (lines ++ ["return this;".toList, ['\x7d']]) = some (statements ++ [.returnThis]) := by
  have hlines : lines ++ ["return this;".toList, ['\x7d']] =
      (lines ++ ["return this;".toList]) ++ [['\x7d']] := by
    rw [List.append_assoc, List.singleton_append]
  rw [hlines, readBody, if_pos List.getLast?_concat, List.dropLast_concat, List.mapM_append, h,
    List.mapM_cons, readStatement_returnThis]
  rfl

/-- The method that updates some fields. -/
def updateMethod (fields : List Field) : Method where
  parameters := fields.map Parameter.ofField
  body := (fields.map fun field => guardedAssignment field.storageName field.publicName) ++
    [.returnThis]

/-- The statements of the update are read. -/
theorem readBody_assignments (fields : List Field) :
    readBody ((fields.map fun field => (Assignment.ofField field).text.toList) ++
      ["return this;".toList, ['\x7d']]) = some (updateMethod fields).body := by
  refine readBody_append (mapM_map_eq_some ?_)
  intro field _
  exact readStatement_text field.storageName_isIdentifier field.publicName_isIdentifier

/-- A method with parameters is read part by part. -/
theorem readMethod_parameters (before : String) {parameters : List Parameter}
    (hnames : ∀ parameter ∈ parameters, isIdentifier parameter.name = true)
    (hnodup : (parameters.map Parameter.name).Nodup) {lines : List (List Char)}
    {body : List Statement} (hbody : readBody lines = some body) :
    readMethod ((before ++ "(\x7b").toList ::
      ((parameters.map fun parameter => parameter.text.toList) ++ closesParameters :: lines)) =
      some ⟨parameters, body⟩ := by
  have hopens : opensParameters (before ++ "(\x7b").toList = true := by
    simp [opensParameters]
  have hrun : ∀ line ∈ parameters.map (fun parameter => parameter.text.toList),
      (line != closesParameters) = true := by
    rw [List.forall_mem_map]
    intro parameter _
    simpa using parameter_text_ne_closesParameters parameter
  have hstop : ∀ line ∈ (closesParameters :: lines).head?, (line != closesParameters) = false := by
    simp
  have hspan := takeWhile_and_dropWhile_append hrun hstop
  have hread : (parameters.map fun parameter => parameter.text.toList).mapM readParameter =
      some (parameters.map id) :=
    mapM_map_eq_some fun parameter hparameter => readParameter_text (hnames parameter hparameter)
  rw [readMethod, if_pos hopens, hspan.1, hspan.2]
  simp [hread, hbody, hnodup]

/-- A method without parameters is read. -/
theorem readMethod_body (before : String) {lines : List (List Char)} {body : List Statement}
    (hbody : readBody lines = some body) :
    readMethod ((before ++ "() \x7b").toList :: lines) = some ⟨[], body⟩ := by
  have hcloses : opensParameters (before ++ "() \x7b").toList = false := by
    simp [opensParameters]
  have hopens : opensBody (before ++ "() \x7b").toList = true := by
    simp [opensBody]
  rw [readMethod, hcloses, if_neg Bool.false_ne_true, if_pos hopens, hbody]
  rfl

/-- The update is read, with a parameter and a statement for each field. -/
theorem readMethod_applyMember (className : String) (config : Config) {fields : List Field}
    (hpublic : (fields.map Field.publicName).Nodup) :
    readMethod (applyMember className fields config).texts = some (updateMethod fields) := by
  have hbody := readBody_assignments fields
  rw [applyMember, texts_mk_lines, applySteps, List.map_append, map_text_applyBody]
  by_cases hfields : fields = []
  · subst hfields
    exact readMethod_body (className ++ " " ++ config.names.apply) hbody
  · have hnames : ∀ parameter ∈ fields.map Parameter.ofField,
        isIdentifier parameter.name = true := by
      rw [List.forall_mem_map]
      intro field _
      exact field.publicName_isIdentifier
    have hnodup : ((fields.map Parameter.ofField).map Parameter.name).Nodup := by
      rwa [List.map_map]
    have hread := readMethod_parameters (className ++ " " ++ config.names.apply) hnames hnodup hbody
    rw [List.map_map] at hread
    rw [if_neg hfields, List.cons_append, List.append_assoc, List.cons_append, List.map_cons,
      List.map_append, List.map_cons, List.map_append, List.map_map, List.map_map]
    exact hread

/-! ## Partial updates -/

section Updates

variable {Object : Type}

/-- Whether a heap is the result of a partial update of an object: the fields whose argument is not
null hold it, all else is as it was before. -/
structure IsPartialUpdate (receiver : Object) (arguments : String → Value Object)
    (fields : List Field) (before after : Heap Object) : Prop where
  overwritten : ∀ field ∈ fields, arguments field.publicName ≠ .null →
    after receiver field.storageName = arguments field.publicName
  kept : ∀ name, (∀ field ∈ fields, field.storageName = name →
    arguments field.publicName = .null) → after receiver name = before receiver name
  elsewhere : ∀ object, object ≠ receiver → after object = before object

variable {receiver : Object} {arguments : String → Value Object} {heap after : Heap Object}
  {field : Field} {fields : List Field}

/-- An update of no fields leaves everything as it is. -/
theorem isPartialUpdate_nil (receiver : Object) (arguments : String → Value Object)
    (heap : Heap Object) : IsPartialUpdate receiver arguments [] heap heap :=
  ⟨by simp, fun _ _ => rfl, fun _ _ => rfl⟩

/-- A field whose argument is null takes no part in an update. -/
theorem IsPartialUpdate.cons_of_null
    (h : IsPartialUpdate receiver arguments fields heap after)
    (hnull : arguments field.publicName = .null) :
    IsPartialUpdate receiver arguments (field :: fields) heap after where
  overwritten := by
    rw [List.forall_mem_cons]
    exact ⟨fun hvalue => absurd hnull hvalue, h.overwritten⟩
  kept := by
    intro name hname
    exact h.kept name fun other hother => hname other (List.mem_cons_of_mem field hother)
  elsewhere := h.elsewhere

variable [DecidableEq Object]

/-- A field that is assigned in front of an update of other fields belongs to the update. -/
theorem IsPartialUpdate.cons_of_ne_null
    (hvalue : arguments field.publicName ≠ .null)
    (hnew : field.storageName ∉ fields.map Field.storageName)
    (h : IsPartialUpdate receiver arguments fields
      (heap.assign receiver field.storageName (arguments field.publicName)) after) :
    IsPartialUpdate receiver arguments (field :: fields) heap after where
  overwritten := by
    rw [List.forall_mem_cons]
    refine ⟨?_, h.overwritten⟩
    intro _
    -- No later assignment has the same target.
    rw [h.kept field.storageName, Heap.assign_self]
    intro other hother hname
    exact absurd (List.mem_map.mpr ⟨other, hother, hname⟩) hnew
  kept := by
    intro name hname
    have hother : name ≠ field.storageName := by
      rintro rfl
      exact hvalue (hname field List.mem_cons_self rfl)
    rw [h.kept name fun other hmem => hname other (List.mem_cons_of_mem field hmem),
      Heap.assign_of_name_ne heap receiver hother]
  elsewhere := by
    intro object hobject
    rw [h.elsewhere object hobject, Heap.assign_of_object_ne heap hobject]

/-- Guarded assignments to different fields are a partial update, and the receiver is returned
behind them. -/
theorem run_guardedAssignments {call : Call Object}
    (hparameters : ∀ field ∈ fields, field.publicName ∈ call.parameters)
    (hstorage : (fields.map Field.storageName).Nodup) (heap : Heap Object) :
    ∃ after,
      run call heap ((fields.map fun field =>
        guardedAssignment field.storageName field.publicName) ++ [.returnThis]) =
          (.object call.receiver, after) ∧
      IsPartialUpdate call.receiver call.arguments fields heap after := by
  induction fields generalizing heap with
  | nil => exact ⟨heap, rfl, isPartialUpdate_nil _ _ _⟩
  | cons field fields ih =>
      rw [List.forall_mem_cons] at hparameters
      rw [List.map_cons, List.nodup_cons] at hstorage
      rw [List.map_cons, List.cons_append, run]
      by_cases hnull : call.arguments field.publicName = .null
      · obtain ⟨after, hrun, hupdate⟩ := ih hparameters.2 hstorage.2 heap
        rw [execute_guardedAssignment_of_null hparameters.1 hnull]
        exact ⟨after, hrun, hupdate.cons_of_null hnull⟩
      · obtain ⟨after, hrun, hupdate⟩ := ih hparameters.2 hstorage.2
          (heap.assign call.receiver field.storageName (call.arguments field.publicName))
        rw [execute_guardedAssignment_of_ne_null hparameters.1 hnull]
        exact ⟨after, hrun, .cons_of_ne_null hnull hstorage.1 hupdate⟩

end Updates

/-! ## The update -/

/-- A type that admits null is spelled with a question mark at its end. -/
theorem exists_text_orNull (type : DartType) : ∃ text, type.orNull.text = text ++ "?" := by
  cases type with
  | scalar name _ => exact ⟨name.name, rfl⟩
  | list element _ => exact ⟨"List<" ++ element.text ++ ">", rfl⟩
  | map key value _ => exact ⟨"Map<" ++ key.text ++ ", " ++ value.text ++ ">", rfl⟩
  | model name _ => exact ⟨name, rfl⟩

/-- The type of a parameter is dynamic, or ends in a question mark. -/
theorem parameterType_admits_null (type : DartType) :
    parameterType type = "dynamic" ∨ ∃ text, parameterType type = text ++ "?" := by
  unfold parameterType
  split
  · exact Or.inl rfl
  · exact Or.inr (exists_text_orNull _)

/-- The update has one parameter for each field, which is called like its public name and admits
null.  Whatever the receiver holds and whatever the arguments are, its statements set exactly the
fields whose argument is not null, and return the receiver. -/
theorem applyMember_updates (className : String) (config : Config) {fields : List Field}
    (hstorage : (fields.map Field.storageName).Nodup)
    (hpublic : (fields.map Field.publicName).Nodup) :
    ∃ method, readMethod (applyMember className fields config).texts = some method ∧
      method.parameters.map Parameter.name = fields.map Field.publicName ∧
      (∀ parameter ∈ method.parameters,
        parameter.type = "dynamic" ∨ ∃ text, parameter.type = text ++ "?") ∧
      ∀ {Object : Type} [DecidableEq Object] (heap : Heap Object) (receiver : Object)
        (arguments : String → Value Object),
        ∃ after, method.call heap receiver arguments = (.object receiver, after) ∧
          IsPartialUpdate receiver arguments fields heap after := by
  refine ⟨updateMethod fields, readMethod_applyMember className config hpublic, ?_, ?_, ?_⟩
  · rw [updateMethod, List.map_map]
    rfl
  · rw [updateMethod, List.forall_mem_map]
    intro field _
    exact parameterType_admits_null field.type
  · intro Object _ heap receiver arguments
    refine run_guardedAssignments ?_ hstorage heap
    intro field hfield
    rw [updateMethod, List.map_map]
    exact List.mem_map_of_mem hfield

/-- Two fields, each with a parameter that is called like the other field.  Only one of them is
given a value. -/
theorem applyMember_updates_crossing :
    let fields : List Field :=
      [⟨"a", "b", "a", "int", by decide, by decide⟩,
        ⟨"b", "a", "b", "dynamic", by decide, by decide⟩]
    let heap : Heap Bool := fun _ name => .string name
    let arguments : String → Value Bool := fun name => if name = "b" then .int 1 else .null
    (fields.map Field.storageName).Nodup ∧ (fields.map Field.publicName).Nodup ∧
      ∃ method after, readMethod (applyMember "A" fields {}).texts = some method ∧
        method.parameters.map Parameter.name = ["b", "a"] ∧
        method.call heap true arguments = (.object true, after) ∧
        after true "a" = .int 1 ∧ after true "b" = .string "b" ∧ after false = heap false := by
  intro fields heap arguments
  have hstorage : (fields.map Field.storageName).Nodup := by decide
  have hpublic : (fields.map Field.publicName).Nodup := by decide
  obtain ⟨method, hread, hnames, -, hcall⟩ := applyMember_updates "A" {} hstorage hpublic
  obtain ⟨after, hafter, hupdate⟩ := hcall heap true arguments
  refine ⟨hstorage, hpublic, method, after, hread, hnames, hafter, ?_, ?_, ?_⟩
  · exact hupdate.overwritten _ List.mem_cons_self (by simp [arguments])
  · exact hupdate.kept "b" (by simp [fields, arguments])
  · exact hupdate.elsewhere false (by decide)

end Memberwise
