/-!
Sets of characters given by ranges of code points, in increasing order.
-/

namespace CompanionStyles.Text

/-- Whether `n` lies in one of the ranges, which are in increasing order. -/
def inRanges (n : Nat) : List (Nat × Nat) → Bool
  | [] => false
  | (low, high) :: rest => if n < low then false else if n ≤ high then true else inRanges n rest

end CompanionStyles.Text
