/-! # Ranges of characters

Sets of characters given as ranges of code points, as the tables of the character standard give
them.
-/

namespace PipelineDepot.Text

/-- A code point lies in one of the ranges. -/
def inRanges (ranges : List (Nat × Nat)) (code : Nat) : Bool :=
  ranges.any fun range => range.1 ≤ code && code ≤ range.2

end PipelineDepot.Text
