/-!
Classes of characters as closed ranges of code points.
-/

namespace QueryRewriting.Text

/-- Closed ranges of code points, ascending and apart. -/
abbrev CodeRanges := List (Nat × Nat)

namespace CodeRanges

/-- Whether a character lies in one of the ranges. -/
def holds (ranges : CodeRanges) (c : Char) : Bool :=
  ranges.any fun (first, last) => decide (first ≤ c.toNat) && decide (c.toNat ≤ last)

theorem holds_iff {ranges : CodeRanges} {c : Char} :
    ranges.holds c = true ↔ ∃ range ∈ ranges, range.1 ≤ c.toNat ∧ c.toNat ≤ range.2 := by
  simp [holds]

/-- Whether the ranges are ascending, each of them apart from the next. -/
def ascending (ranges : CodeRanges) : Bool :=
  ranges.all (fun (first, last) => decide (first ≤ last)) &&
    (ranges.zip ranges.tail).all fun (range, next) => decide (range.2 + 1 < next.1)

/-- The number of code points in the ranges. -/
def count (ranges : CodeRanges) : Nat :=
  ranges.foldr (fun (first, last) others => last + 1 - first + others) 0

end CodeRanges

end QueryRewriting.Text
