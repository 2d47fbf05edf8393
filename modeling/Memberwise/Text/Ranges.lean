/-!
# Ranges of code points

Properties of characters that are given by the code points that have them, as inclusive
ranges in increasing order.

Main results:

- Theorem {lit}`inRanges_eq_true_iff`: a code point is in some ranges if it is in one of
  them.
-/

namespace Memberwise.Text

/-- Whether a code point lies in one of some ranges. -/
def inRanges (ranges : List (Nat × Nat)) (code : Nat) : Bool :=
  ranges.any fun range => range.1 ≤ code && code ≤ range.2

/-- A code point is in some ranges if it is in one of them. -/
theorem inRanges_eq_true_iff {ranges : List (Nat × Nat)} {code : Nat} :
    inRanges ranges code = true ↔ ∃ range ∈ ranges, range.1 ≤ code ∧ code ≤ range.2 := by
  simp [inRanges]

end Memberwise.Text
