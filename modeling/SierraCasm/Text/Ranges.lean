/-! # Ranges of code points -/

namespace SierraCasm.Text

/-- A code point lies in one of some ascending ranges, both ends included. -/
def inRanges (n : Nat) : List (Nat × Nat) → Bool
  | [] => false
  | (lo, hi) :: rest => if n < lo then false else if n ≤ hi then true else inRanges n rest

end SierraCasm.Text
