import SierraCasm.Text.Decimal

/-! # Numbers of a document

What the numbers of a document mean to `cuelang.org/go`, whose decimals are those of its `apd`
package.  A number is an integer if it is spelled without a fraction and an exponent, and a decimal
fraction otherwise; the two kinds never agree, and neither do different numbers.  The bounds on
exponents are those of `apd`. -/

namespace SierraCasm.Document

open Text

/-- A decimal fraction `mantissa * 10 ^ exponent`, in lowest terms, or a number whose exponent is
out of reach, of which only the sign is known. -/
inductive Fraction where
  | decimal (mantissa exponent : Int)
  | outOfReach (negative : Bool)
deriving DecidableEq, Repr

namespace Fraction

/-- The parts of a number as it is spelled: its sign, the digits before and behind the point, and
its exponent. -/
structure Spelled where
  negative : Bool
  whole : List Char
  places : List Char
  exponent : Int
deriving DecidableEq, Repr

def Spelled.ofString (spelling : String) : Spelled :=
  let cs := spelling.toList
  let negative := cs.head? = some '-'
  let body := if negative then cs.tail else cs
  let isExponent (c : Char) : Bool := c = 'e' || c = 'E'
  let mantissa := body.takeWhile fun c => !isExponent c
  { negative := negative
    whole := mantissa.takeWhile (· != '.')
    places := (mantissa.dropWhile (· != '.')).drop 1
    exponent := (intOfChars? ((body.dropWhile fun c => !isExponent c).drop 1)).getD 0 }

/-- Moves up to `fuel` trailing zeros of a mantissa into the exponent. -/
def reduce : Nat → Int → Int → Fraction
  | 0, mantissa, exponent => .decimal mantissa exponent
  | fuel + 1, mantissa, exponent =>
    if mantissa = 0 then .decimal 0 0
    else if mantissa % 10 = 0 then reduce fuel (mantissa / 10) (exponent + 1)
    else .decimal mantissa exponent

/-- Exponents lie within this bound on either side, those of the leading digit too. -/
def scaleBound : Nat := 100000

/-- An exponent is in reach if it is a signed 32-bit number. -/
def inReach (exponent : Int) : Bool :=
  Int32.minValue.toInt ≤ exponent && exponent ≤ Int32.maxValue.toInt

/-- The fraction that a number spells.  If the exponent, the number of places or the exponent of
the leading digit exceeds its bound, the digits count as a whole number. -/
def ofSpelling (spelling : String) : Fraction :=
  let n := Spelled.ofString spelling
  if inReach n.exponent then
    let digits := n.whole ++ n.places
    let magnitude := ofDigits digits
    let scale := n.exponent - n.places.length
    let leading := scale + (toString magnitude).length - 1
    let bounded := n.exponent.natAbs ≤ scaleBound ∧ n.places.length ≤ scaleBound ∧
      leading.natAbs ≤ scaleBound
    reduce (digits.length + 1) (if n.negative then -magnitude else magnitude)
      (if bounded then scale else 0)
  else
    .outOfReach n.negative

end Fraction

/-- A number by its kind. -/
inductive Number where
  | integer (n : Int)
  | fraction (f : Fraction)
deriving DecidableEq, Repr

def Number.ofSpelling (spelling : String) : Number :=
  match intOfString? spelling with
  | some n => .integer n
  | none => .fraction (.ofSpelling spelling)

end SierraCasm.Document
