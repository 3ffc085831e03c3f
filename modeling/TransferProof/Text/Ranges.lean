import TransferProof.Text

/-!
# Classes of code points

A class is a list of inclusive ranges in ascending order. The tables of this folder hold the
properties of Unicode 14.0 that the checker's rules mention.
-/

namespace TransferProof

/-- Inclusive ranges of code points, in ascending order. -/
abbrev Ranges := List (CodePoint × CodePoint)

namespace Ranges

def contains (ranges : Ranges) (c : CodePoint) : Bool :=
  ranges.any fun range => range.1 ≤ c && c ≤ range.2

theorem contains_iff {ranges : Ranges} {c : CodePoint} :
    ranges.contains c = true ↔ ∃ range ∈ ranges, range.1 ≤ c ∧ c ≤ range.2 := by
  simp [contains]

end Ranges

end TransferProof
