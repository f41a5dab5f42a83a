/-!
# Ranges of code points

A class of characters is given by the first and last code points of its ranges.
-/

namespace Assay.Text

def inRanges (ranges : List (Nat × Nat)) (code : Nat) : Bool :=
  ranges.any fun range => range.1 ≤ code && code ≤ range.2

end Assay.Text
