import Memberwise.Proofs.Signature.Stability

/-!
# User models of a signature

Reading a signature makes up no names: every user model is called as a part of the signature
is spelled.

Main results:

- Theorem {lit}`infix_of_mem_slots`: every slot is a part of the text that it was cut from.
- Theorem {lit}`infix_of_mem_modelNames_read`: the names of user models are parts of the
  signature.
-/

namespace Memberwise.Signature

open Memberwise.Text Memberwise.Dart

/-! ## Parts of a level -/

/-- What trimming keeps is a part of the text. -/
theorem isInfix_trim (text : List Char) : trim text <:+: text := by
  rcases exists_eq_pad_trim text with ⟨lead, tail, -, -, htext⟩
  exact ⟨lead, tail, htext.symm⟩

/-- A signature without its null mark is a part of the signature. -/
theorem isInfix_stripNullMark (signature : List Char) :
    (stripNullMark signature).1 <:+: signature := by
  rw [stripNullMark]
  split
  · have hend : trimEnd (trim signature).dropLast <+: (trim signature).dropLast := by
      rcases exists_eq_trimEnd_append (trim signature).dropLast with ⟨tail, -, htext⟩
      exact ⟨tail, htext.symm⟩
    have hlast := hend.trans (List.dropLast_prefix (trim signature))
    exact hlast.isInfix.trans (isInfix_trim signature)
  · exact isInfix_trim signature

/-- The first slot begins where the text does, and the others are parts of it. -/
theorem isInfix_slots (depth : Nat) (text : List Char) :
    (slots depth text).first <+: text ∧
      ∀ slot ∈ (slots depth text).others, slot <:+: text := by
  fun_induction slots depth text with
  | case1 => simp
  | case2 depth rest ih =>
      exact ⟨List.cons_prefix_cons.mpr ⟨rfl, ih.1⟩, fun slot h => List.infix_cons (ih.2 slot h)⟩
  | case3 rest => simp
  | case4 depth rest ih =>
      exact ⟨List.cons_prefix_cons.mpr ⟨rfl, ih.1⟩, fun slot h => List.infix_cons (ih.2 slot h)⟩
  | case5 rest ih =>
      refine ⟨List.nil_prefix, ?_⟩
      intro slot h
      rcases List.mem_cons.mp h with rfl | h
      · exact List.infix_cons ih.1.isInfix
      · exact List.infix_cons (ih.2 slot h)
  | case6 depth c rest _ _ _ _ ih =>
      exact ⟨List.cons_prefix_cons.mpr ⟨rfl, ih.1⟩, fun slot h => List.infix_cons (ih.2 slot h)⟩

/-- Every slot is a part of the text that it was cut from. -/
theorem infix_of_mem_slots {depth : Nat} {text slot : List Char}
    (h : slot ∈ (slots depth text).toList) : slot <:+: text := by
  rcases List.mem_cons.mp h with rfl | h
  · exact (isInfix_slots depth text).1.isInfix
  · exact (isInfix_slots depth text).2 slot h

/-! ## The whole tree -/

/-- The names of user models are parts of the signature. -/
theorem infix_of_mem_modelNames_read {signature : List Char} {name : String}
    (h : name ∈ (read signature).modelNames) : name.toList <:+: signature := by
  induction signature using slot_induction with
  | step signature ih =>
      have hchild : ∀ child ∈ (read signature).children, name ∈ child.modelNames →
          name.toList <:+: signature := by
        intro child hchild hname
        rcases read_of_mem_children hchild with
          ⟨scalar, rfl⟩ | ⟨found, slot, hfound, hslot, -, rfl⟩
        · simp [DartType.modelNames] at hname
        · have hpart : slot <:+: (stripNullMark signature).1 := by
            rcases exists_of_slots_eq_some hfound with ⟨before, inner, hbase, -, rfl⟩
            rw [hbase]
            exact (infix_of_mem_slots hslot).trans
              ((List.suffix_cons '<' inner).trans (List.suffix_append before _)).isInfix
          exact (ih found slot hfound hslot hname).trans
            (hpart.trans (isInfix_stripNullMark signature))
      cases htype : read signature with
      | scalar scalar nullable =>
          rw [htype] at h
          simp [DartType.modelNames] at h
      | list element nullable =>
          rw [htype] at h hchild
          exact hchild element (by simp [DartType.children]) h
      | map key value nullable =>
          rw [htype] at h hchild
          rcases List.mem_append.mp h with h | h
          · exact hchild key (by simp [DartType.children]) h
          · exact hchild value (by simp [DartType.children]) h
      | model model nullable =>
          rw [htype] at h
          have hstrip := (read_eq_model_iff.mp htype).1
          have hname : name = model := by simpa [DartType.modelNames] using h
          have hinfix := isInfix_stripNullMark signature
          rw [hstrip] at hinfix
          rw [hname]
          exact hinfix

end Memberwise.Signature
