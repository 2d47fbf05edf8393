import Mathlib.Algebra.Order.BigOperators.Group.List
import Mathlib.Algebra.Order.Ring.Nat
import Memberwise.Proofs.Signature.Models

/-!
# The size of what is read

Reading makes up the arguments that a signature leaves out, and yet a type is never larger than
its signature: what is made up has the length of the collection's name to pay for it.  Only a
bracket leads one level down, so the brackets of a signature account for the height of its type.

Main definitions:

- {lit}`DartType.nodeCount` and {lit}`DartType.height`: how large and how high a type is.

Main results:

- Theorem {lit}`arguments_shape_cases`: which arguments a level has.
- Theorem {lit}`sum_arguments_shape_lt`: the arguments of a level and the level itself fit into
  its text.
- Theorem {lit}`count_open_lt_of_written`: a written argument has fewer brackets than its
  signature.
- Theorem {lit}`typeOf_isBounded`: bounds for the type of every signature.
-/

namespace Memberwise

/-! ## Nodes and paths -/

namespace Dart.DartType

/-- The number of nodes of a type. -/
def nodeCount : DartType → Nat
  | scalar _ _ => 1
  | list element _ => element.nodeCount + 1
  | map key value _ => key.nodeCount + value.nodeCount + 1
  | model _ _ => 1

/-- The number of nodes on the longest path from the root of a type to a leaf. -/
def height : DartType → Nat
  | scalar _ _ => 1
  | list element _ => element.height + 1
  | map key value _ => max key.height value.height + 1
  | model _ _ => 1

/-- The nodes of a type are its root and the nodes of what it is directly made of. -/
theorem nodeCount_eq_sum_children (type : DartType) :
    type.nodeCount = (type.children.map nodeCount).sum + 1 := by
  cases type <;> simp [nodeCount, children]

/-- A type is at most one level higher than what it is directly made of. -/
theorem height_le_of_children {type : DartType} {bound : Nat}
    (h : ∀ child ∈ type.children, child.height ≤ bound) : type.height ≤ bound + 1 := by
  cases type <;> simp_all [height, children]

end Dart.DartType

namespace Signature

open Memberwise.Text Memberwise.Dart

/-! ## Arguments of a level -/

/-- The arguments of a level, by the name in front of its argument list.  A list has one and a map
has two of them, and what is not written is {lit}`dynamic`, or {lit}`String` for the key of a
map. -/
theorem arguments_shape_cases (base : List Char) :
    (shape base).arguments = [] ∨
      (application base).head = listName ∧
        (shape base).arguments = [Argument.ofSlot ((arguments base).headD [])] ∨
      (application base).head = mapName ∧
        ((shape base).arguments =
            [.implied .string, Argument.ofSlot ((arguments base).headD [])] ∨
          ∃ key value others, arguments base = key :: value :: others ∧
            (shape base).arguments = [Argument.ofSlot key, Argument.ofSlot value]) := by
  unfold shape
  split
  · exact .inl rfl
  · simp only
    split_ifs with hlist hmap
    · refine .inr (.inl ⟨hlist, ?_⟩)
      split <;> rename_i hargs <;> rw [hargs] <;> rfl
    · refine .inr (.inr ⟨hmap, ?_⟩)
      split <;> rename_i hargs
      · exact .inl (by rw [hargs]; rfl)
      · exact .inl (by rw [hargs]; rfl)
      · exact .inr ⟨_, _, _, hargs, rfl⟩
    · exact .inl rfl

/-- A slot implies {lit}`dynamic` if it implies anything. -/
theorem eq_dynamic_of_ofSlot_eq_implied {slot : List Char} {scalar : Scalar}
    (h : Argument.ofSlot slot = .implied scalar) : scalar = .dynamic := by
  cases slot with
  | nil => exact (Argument.implied.inj h).symm
  | cons c rest => cases h

/-- Only {lit}`dynamic` and {lit}`String` are implied. -/
theorem mem_of_implied_mem_arguments {base : List Char} {scalar : Scalar}
    (h : Argument.implied scalar ∈ (shape base).arguments) :
    scalar ∈ [Scalar.dynamic, .string] := by
  have hslot : ∀ slot, Argument.implied scalar = Argument.ofSlot slot → scalar = .dynamic :=
    fun slot hscalar => eq_dynamic_of_ofSlot_eq_implied hscalar.symm
  rcases arguments_shape_cases base with hnone | ⟨-, hlist⟩ |
    ⟨-, hmap | ⟨key, value, others, -, hmap⟩⟩
  · simp [hnone] at h
  · rw [hlist, List.mem_singleton] at h
    simp [hslot _ h]
  · rw [hmap, List.mem_pair] at h
    rcases h with h | h
    · simp [Argument.implied.inj h]
    · simp [hslot _ h]
  · rw [hmap, List.mem_pair] at h
    rcases h with h | h <;> simp [hslot _ h]

/-! ## The length of a level -/

/-- The slots of an argument list fit into the text that they were cut from. -/
theorem sum_length_slots_le (depth : Nat) (text : List Char) :
    ((slots depth text).toList.map List.length).sum ≤ text.length := by
  fun_induction slots depth text <;>
    simp_all [Slots.toList, Slots.push, Slots.cut] <;> omega

/-- The name in front of an argument list and the arguments fit into the signature. -/
theorem length_head_add_arguments_le (base : List Char) :
    (application base).head.length + ((arguments base).map List.length).sum ≤ base.length := by
  by_cases hopen : '<' ∈ base
  · rcases List.eq_append_cons_of_mem hopen with ⟨before, inner, rfl, hbefore⟩
    have harguments : arguments (before ++ '<' :: inner) = (slots 0 inner).toList.map trim := by
      rw [arguments, application_append hbefore]
    have htrimmed : (((slots 0 inner).toList.map trim).map List.length).sum ≤
        ((slots 0 inner).toList.map List.length).sum := by
      rw [List.map_map]
      exact List.sum_le_sum fun slot _ => length_trim_le slot
    have hslots := sum_length_slots_le 0 inner
    have hhead := length_trim_le before
    rw [harguments, application_append hbefore, List.length_append, List.length_cons]
    dsimp only
    omega
  · have harguments : arguments base = [] := by
      rw [arguments, application_of_not_mem hopen]
    simp [harguments, application_of_not_mem hopen]

/-- How much of a signature an argument takes up: nothing if it is implied. -/
def Argument.writtenLength : Argument → Nat
  | written text => text.length
  | implied _ => 0

/-- An argument that is implied takes up nothing. -/
theorem writtenLength_implied (scalar : Scalar) : (Argument.implied scalar).writtenLength = 0 :=
  rfl

/-- The argument of a slot takes up the slot. -/
theorem writtenLength_ofSlot (slot : List Char) :
    (Argument.ofSlot slot).writtenLength = slot.length := by
  cases slot <;> rfl

/-- The first argument takes up no more than all of them. -/
theorem length_headD_le (texts : List (List Char)) :
    (texts.headD []).length ≤ (texts.map List.length).sum := by
  cases texts <;> simp

/-- The arguments of a level fit into its text together with the level itself, even if each of
them takes up one character at least. -/
theorem sum_arguments_shape_lt (base : List Char) :
    ((shape base).arguments.map fun argument => max 1 argument.writtenLength).sum <
      max 1 base.length := by
  have hlength := length_head_add_arguments_le base
  have hfirst := length_headD_le (arguments base)
  -- the name of a collection is long enough for the level itself and for what is implied in it
  rcases arguments_shape_cases base with hnone | ⟨hhead, hlist⟩ |
    ⟨hhead, hmap | ⟨key, value, others, hargs, hmap⟩⟩
  · simp [hnone]
  · have hname : listName.length = 4 := rfl
    rw [hhead] at hlength
    simp only [hlist, List.map_cons, List.map_nil, List.sum_singleton, writtenLength_ofSlot]
    omega
  · have hname : mapName.length = 3 := rfl
    rw [hhead] at hlength
    simp only [hmap, List.map_cons, List.map_nil, List.sum_cons, List.sum_nil,
      writtenLength_ofSlot, writtenLength_implied]
    omega
  · have hname : mapName.length = 3 := rfl
    rw [hhead, hargs, List.map_cons, List.map_cons, List.sum_cons, List.sum_cons] at hlength
    simp only [hmap, List.map_cons, List.map_nil, List.sum_cons, List.sum_nil,
      writtenLength_ofSlot]
    omega

/-! ## The brackets of a level -/

/-- A written argument has fewer brackets than the signature it stands in: it stands behind the
first one. -/
theorem count_open_lt_of_written {signature text : List Char}
    (h : Argument.written text ∈ (classify signature).shape.arguments) :
    text.count '<' < signature.count '<' := by
  have hargument : text ∈ arguments (stripNullMark signature).1 := mem_arguments_of_written h
  rcases exists_slot_of_mem_arguments hargument with ⟨found, slot, hfound, hslot, rfl⟩
  rcases exists_of_slots_eq_some hfound with ⟨before, inner, hbase, -, rfl⟩
  have htrim := (isInfix_trim slot).sublist.count_le '<'
  have hinner := (infix_of_mem_slots hslot).sublist.count_le '<'
  have hstrip := (isInfix_stripNullMark signature).sublist.count_le '<'
  rw [hbase, List.count_append, List.count_cons_self] at hstrip
  omega

/-! ## The whole tree -/

/-- A property that passes from the written arguments of every signature to the signature holds of
all texts. -/
theorem argument_induction {motive : List Char → Prop}
    (step : ∀ signature,
      (∀ text, .written text ∈ (classify signature).shape.arguments → motive text) →
        motive signature)
    (text : List Char) : motive text := by
  induction text using (measure List.length).wf.induction with
  | h signature ih =>
      refine step signature ?_
      intro argument hargument
      exact ih argument (Argument.length_written_lt hargument)

/-- A level has the shape of the signature without its null mark. -/
theorem shape_classify (signature : List Char) :
    (classify signature).shape = shape (stripNullMark signature).1 :=
  rfl

/-- A type is directly made of what the arguments of its signature stand for. -/
theorem children_read (signature : List Char) :
    (read signature).children =
      (classify signature).shape.arguments.map Argument.type := by
  rw [read_eq, children_type, shape_classify]

/-- An implied argument is read from its text as well, and so is any other. -/
theorem read_text_argument (argument : Argument) : read argument.text = argument.type := by
  cases argument with
  | written text => rfl
  | implied scalar =>
      have hstrip : stripNullMark scalar.name.toList = (scalar.name.toList, false) := by
        cases scalar <;> decide
      rw [Argument.text, read_eq, hstrip, shape_scalar]
      rfl

/-- A type has no more nodes than its signature has characters, and one for the empty text. -/
theorem nodeCount_read_le (signature : List Char) :
    (read signature).nodeCount ≤ max 1 signature.length := by
  induction signature using argument_induction with
  | step signature ih =>
      let arguments := (classify signature).shape.arguments
      have hargument : ∀ argument ∈ arguments,
          argument.type.nodeCount ≤ max 1 argument.writtenLength := by
        intro argument hmem
        cases argument with
        | written text => exact ih text hmem
        | implied scalar => exact Nat.le_max_left 1 0
      have hstrip := length_stripNullMark_le signature
      calc (read signature).nodeCount
          = (arguments.map fun argument => argument.type.nodeCount).sum + 1 := by
            rw [DartType.nodeCount_eq_sum_children, children_read, List.map_map]
            rfl
        _ ≤ (arguments.map fun argument => max 1 argument.writtenLength).sum + 1 :=
            Nat.add_le_add_right (List.sum_le_sum hargument) 1
        _ ≤ max 1 (stripNullMark signature).1.length := sum_arguments_shape_lt _
        _ ≤ max 1 signature.length := max_le_max_left 1 hstrip

/-- Every bracket of a signature makes its type one level higher at most. -/
theorem height_read_le (signature : List Char) :
    (read signature).height ≤ signature.count '<' + 2 := by
  induction signature using argument_induction with
  | step signature ih =>
      refine DartType.height_le_of_children ?_
      rw [children_read, List.forall_mem_map]
      intro argument hmem
      cases argument with
      | written text =>
          have htext := ih text hmem
          have hcount := count_open_lt_of_written hmem
          exact htext.trans (by omega)
      | implied scalar => exact Nat.le_add_left 1 _

/-- The type of a signature, well formed or not, has no more nodes than the signature has
characters, or it is a single node, and on no path has it more nodes than two and one for each
opening bracket.  The type is directly made of what is read from the texts of the arguments.  Such
a text is shorter than the signature, or it is one of the two words for implied arguments, which
are read as leaves. -/
theorem typeOf_isBounded (signature : String) :
    (typeOf signature).nodeCount ≤ max 1 signature.length ∧
      (typeOf signature).height ≤ signature.toList.count '<' + 2 ∧
      (typeOf signature).children =
        (classify signature.toList).shape.arguments.map (fun argument => read argument.text) ∧
      ∀ argument ∈ (classify signature.toList).shape.arguments,
        argument.text.length < signature.length ∨
          ∃ scalar ∈ [Scalar.dynamic, .string], argument.text = scalar.name.toList ∧
            read argument.text = .scalar scalar false := by
  refine ⟨?_, height_read_le signature.toList, ?_, ?_⟩
  · rw [← String.length_toList]
    exact nodeCount_read_le signature.toList
  · rw [typeOf, children_read]
    exact List.map_congr_left fun argument _ => (read_text_argument argument).symm
  · intro argument hmem
    cases argument with
    | written text =>
        have hlength := Argument.length_written_lt hmem
        rw [String.length_toList] at hlength
        exact .inl hlength
    | implied scalar =>
        rw [shape_classify] at hmem
        have hscalar := mem_of_implied_mem_arguments hmem
        exact .inr ⟨scalar, hscalar, rfl, read_text_argument (.implied scalar)⟩

/-- Both bounds are reached: by the shortest map, whose arguments are implied, and by unclosed
collections inside one another. -/
theorem typeOf_isBounded_map :
    let short := "Map"
    let long := "List<Map< ,Map"
    let implied := Argument.implied .dynamic
    let written := Argument.written "Map< ,Map".toList
    implied ∈ (classify short.toList).shape.arguments ∧
      written ∈ (classify long.toList).shape.arguments ∧
      (typeOf short).nodeCount = short.length ∧
      (typeOf long).height = long.toList.count '<' + 2 ∧
      (implied.text.length < short.length ∨
        ∃ scalar ∈ [Scalar.dynamic, .string], implied.text = scalar.name.toList ∧
          read implied.text = .scalar scalar false) ∧
      (written.text.length < long.length ∨
        ∃ scalar ∈ [Scalar.dynamic, .string], written.text = scalar.name.toList ∧
          read written.text = .scalar scalar false) := by
  intro short long implied written
  have himplied : implied ∈ (classify short.toList).shape.arguments := by decide
  have hwritten : written ∈ (classify long.toList).shape.arguments := by decide
  obtain ⟨-, -, -, hshort⟩ := typeOf_isBounded short
  obtain ⟨-, -, -, hlong⟩ := typeOf_isBounded long
  exact ⟨himplied, hwritten, by decide +kernel, by decide +kernel, hshort implied himplied,
    hlong written hwritten⟩

end Signature

end Memberwise
