/-!
# Ranges of characters

* `inRanges` tells whether a code point is in one of several ranges.
-/

set_option autoImplicit false

namespace Protogen.Text

/-- Whether a code point is in one of the ranges. -/
def inRanges (ranges : List (Nat × Nat)) (n : Nat) : Bool :=
  ranges.any fun range => range.1 ≤ n && n ≤ range.2

end Protogen.Text
