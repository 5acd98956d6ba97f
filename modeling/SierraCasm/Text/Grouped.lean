/-! # Numbers with grouped digits -/

namespace SierraCasm.Text

/-- Digits, the last first, with a comma after every third. -/
def groupDigits : List Char → List Char
  | a :: b :: c :: d :: rest => a :: b :: c :: ',' :: groupDigits (d :: rest)
  | digits => digits

/-- A number with a comma between groups of three digits. -/
def grouped (n : Int) : String :=
  let digits := String.ofList (groupDigits (toString n.natAbs).toList.reverse).reverse
  if n < 0 then "-" ++ digits else digits

end SierraCasm.Text
