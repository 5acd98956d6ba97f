import SierraCasm.Yaml.Timestamp

/-! # Plain texts that are not read as text

A plain scalar may stand for a truth value, for nothing, for a number or for a point in time.
`isText` tells which texts can be written plainly without being taken for one of these. -/

namespace SierraCasm.Yaml

open Text

/-- Words with a meaning of their own. -/
def reservedWords : List String :=
  ["true", "True", "TRUE", "false", "False", "FALSE", "", "~", "null", "Null", "NULL",
   ".nan", ".NaN", ".NAN", ".inf", ".Inf", ".INF", "+.inf", "+.Inf", "+.INF",
   "-.inf", "-.Inf", "-.INF"]

/-- Words that older readers take for truth values. -/
def oldTruthWords : List String :=
  ["y", "Y", "yes", "Yes", "YES", "on", "On", "ON", "n", "N", "no", "No", "NO", "off", "Off", "OFF"]

/-! ### Integers -/

/-- The value of a digit in bases up to sixteen. -/
def digitValue? (c : Char) : Option Nat :=
  if isDigit c then some (c.toNat - '0'.toNat)
  else if 'a' ≤ c ∧ c ≤ 'f' then some (c.toNat - 'a'.toNat + 10)
  else if 'A' ≤ c ∧ c ≤ 'F' then some (c.toNat - 'A'.toNat + 10)
  else none

/-- The number that some digits spell in a base. -/
def digitsIn? (base : Nat) : Nat → List Char → Option Nat
  | n, [] => some n
  | n, c :: cs => do
    let d ← digitValue? c
    if d < base then digitsIn? base (n * base + d) cs else none

/-- The number that at least one digit spells in a base. -/
def natIn? (base : Nat) (cs : List Char) : Option Nat :=
  if cs.isEmpty then none else digitsIn? base 0 cs

/-- The number of a text whose base its start tells: `0x`, `0o`, `0b`, or `0` for octal. -/
def natByPrefix? : List Char → Option Nat
  | '0' :: b :: c :: cs =>
    if b = 'x' ∨ b = 'X' then natIn? 16 (c :: cs)
    else if b = 'o' ∨ b = 'O' then natIn? 8 (c :: cs)
    else if b = 'b' ∨ b = 'B' then natIn? 2 (c :: cs)
    else natIn? 8 (b :: c :: cs)
  | '0' :: cs => digitsIn? 8 0 cs
  | cs => natIn? 10 cs

/-- A number with a sign fits a signed word. -/
def fitsSigned (negative : Bool) (n : Nat) : Bool :=
  if negative then n ≤ Nat.pow 2 63 else n < Nat.pow 2 63

/-- A text is an integer of a word, signed or unsigned, as `read?` reads it. -/
def isWordBy (read? : List Char → Option Nat) : List Char → Bool
  | '-' :: cs => (read? cs).any (fitsSigned true)
  | '+' :: cs => (read? cs).any (fitsSigned false)
  | cs => (read? cs).any (· < Nat.pow 2 64)

/-- A text is an integer. -/
def isInteger (cs : List Char) : Bool :=
  isWordBy natByPrefix? cs ||
    match cs with
    | '0' :: 'b' :: rest => isWordBy (natIn? 2) rest
    | '0' :: 'o' :: rest => isWordBy (natIn? 8) rest
    | _ => false

/-! ### Fractions -/

/-- The digits around a point, and the exponent, of a decimal fraction. -/
structure Decimal where
  whole : List Char
  fraction : List Char
  exponent : Int

/-- The exponent at the end of a number. -/
def exponent? : List Char → Option Int
  | [] => some 0
  | c :: cs =>
    if c = 'e' ∨ c = 'E' then
      match cs with
      | '+' :: ds => (natOfChars? ds).map Int.ofNat
      | '-' :: ds => (natOfChars? ds).map fun n => -(n : Int)
      | ds => (natOfChars? ds).map Int.ofNat
    else none

/-- The parts of a decimal fraction without its sign; a point needs a digit on one side. -/
def decimal? (cs : List Char) : Option Decimal :=
  let whole := cs.takeWhile isDigit
  match cs.dropWhile isDigit with
  | '.' :: rest =>
    let fraction := rest.takeWhile isDigit
    if whole.isEmpty && fraction.isEmpty then none
    else (exponent? (rest.dropWhile isDigit)).map fun e => ⟨whole, fraction, e⟩
  | rest => if whole.isEmpty then none else (exponent? rest).map fun e => ⟨whole, [], e⟩

/-- The least magnitude that rounds beyond the double precision numbers. -/
def overflowBound : Nat := Nat.pow 2 1024 - Nat.pow 2 970

/-- A decimal fraction has a double precision number next to it. -/
def Decimal.isFinite (d : Decimal) : Bool :=
  let digits := (d.whole ++ d.fraction).dropWhile (· == '0')
  let scale := d.exponent - d.fraction.length
  let magnitude := (digits.length : Int) + scale
  if digits.isEmpty || magnitude < 300 then true
  else if 320 < magnitude then false
  else if 0 ≤ scale then ofDigits digits * Nat.pow 10 scale.toNat < overflowBound
  else ofDigits digits < overflowBound * Nat.pow 10 (-scale).toNat

/-- A text without its sign. -/
def unsigned : List Char → List Char
  | '+' :: cs => cs
  | '-' :: cs => cs
  | cs => cs

/-- A text is a decimal fraction. -/
def isFraction (cs : List Char) : Bool := (decimal? (unsigned cs)).any Decimal.isFinite

/-- Underscores stand between digits only. -/
def separatesDigits : Option Char → List Char → Bool
  | _, [] => true
  | before, '_' :: rest =>
    before.any isDigit && (rest.head?).any isDigit && separatesDigits (some '_') rest
  | _, c :: rest => separatesDigits (some c) rest

/-! ### Numbers to the base sixty -/

/-- Groups of minutes or seconds, each after a colon, at least one. -/
def sexagesimalGroups : Nat → List Char → Option (List Char)
  | 0, _ => none
  | fuel + 1, ':' :: cs =>
    let digits := cs.takeWhile isDigit
    let rest := cs.dropWhile isDigit
    if digits.length = 1 ∨ (digits.length = 2 ∧ ofDigits digits < 60) then
      if rest.head? = some ':' then sexagesimalGroups fuel rest else some rest
    else none
  | _, _ => none

/-- A text is a number to the base sixty, which older readers know. -/
def isSexagesimal (cs : List Char) : Bool :=
  let isBody (c : Char) : Bool := isDigit c || c = '_'
  let body := unsigned cs
  body.head?.any isDigit &&
    match sexagesimalGroups (body.length + 1) (body.dropWhile isBody) with
    | some [] => true
    | some ('.' :: rest) => rest.all isBody
    | _ => false

/-! ### Texts -/

/-- A text that starts like a number is one, or a point in time. -/
def isNumeric (cs : List Char) : Bool :=
  let plain := cs.filter (· != '_')
  isTimestamp cs || isInteger plain || isFraction plain

/-- A plain scalar is read as the text it is, by new and old readers. -/
def isText (s : String) : Bool :=
  let cs := s.toList
  let numeric := match cs.head? with
    | some '.' => separatesDigits none cs && isFraction (cs.filter (· != '_'))
    | some c => (isDigit c || c = '+' || c = '-') && isNumeric cs
    | none => false
  !(reservedWords.contains s || oldTruthWords.contains s || numeric || isSexagesimal cs)

end SierraCasm.Yaml
