/-!
# Sets of characters given by ranges

The properties of characters that no formula gives are listed as ranges of code points in
ascending order. `inRanges` looks a code point up in such a list.
-/

namespace ClientGen
namespace Text

/-- Whether `n` lies in one of the ranges, both ends included. The ranges ascend, so the search
ends at the first range that starts above `n`. -/
def inRanges (n : Nat) : List (Nat × Nat) → Bool
  | [] => false
  | (a, b) :: rest => if n < a then false else if n ≤ b then true else inRanges n rest

end Text
end ClientGen
