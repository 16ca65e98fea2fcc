/-! Sets of characters given by ranges of code points.
-/

namespace QualifierBindings.Text

/-- Code points from the first to the last one of each pair. -/
abbrev CodeRanges := List (Nat × Nat)

def CodeRanges.contains (ranges : CodeRanges) (c : Char) : Bool :=
  ranges.any (fun range => range.1 ≤ c.toNat && c.toNat ≤ range.2)

end QualifierBindings.Text
