/-! # Decimal integers -/

namespace SierraCasm.Text

def isDigit (c : Char) : Bool := '0' ≤ c && c ≤ '9'

/-- The number that some digits spell. -/
def ofDigits (digits : List Char) : Nat :=
  digits.foldl (fun n c => 10 * n + (c.toNat - '0'.toNat)) 0

/-- The number spelled by a text of digits only, at least one. -/
def natOfChars? (cs : List Char) : Option Nat :=
  if !cs.isEmpty && cs.all isDigit then some (ofDigits cs) else none

/-- The integer spelled by digits with an optional sign. -/
def intOfChars? : List Char → Option Int
  | '+' :: cs => (natOfChars? cs).map Int.ofNat
  | '-' :: cs => (natOfChars? cs).map fun n => -(n : Int)
  | cs => (natOfChars? cs).map Int.ofNat

/-- The integer that a text of the form `[+-]?[0-9]+` spells. -/
def intOfString? (s : String) : Option Int := intOfChars? s.toList

end SierraCasm.Text
