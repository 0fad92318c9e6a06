/-
# LiveMarkup.Text.Ranges -- sets of characters given by ranges of code points

A character property beyond the ASCII range is a table of closed ranges, in
increasing order; membership is `inRanges`.
-/

namespace LiveMarkup.Text

set_option autoImplicit false

/-- Is the code point in one of the closed ranges? -/
def inRanges (ranges : List (Nat × Nat)) (code : Nat) : Bool :=
  ranges.any fun r => decide (r.1 ≤ code) && decide (code ≤ r.2)

end LiveMarkup.Text
