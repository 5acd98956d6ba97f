import SierraCasm.Text.Decimal

/-! # Timestamps

The plain texts that read as a point in time: a date, or a date and a time of day, in the forms
`2006-1-2`, `2006-1-2 15:4:5.9` and `2006-1-2T15:4:5.9+01:00`.  The year has four digits, the other
numbers one or two. -/

namespace SierraCasm.Yaml

open Text

/-- A reader of a part of a text: its value and what is left. -/
abbrev Part (α : Type) := List Char → Option (α × List Char)

/-- A given character. -/
def exactly (c : Char) : Part Unit
  | d :: rest => if d = c then some ((), rest) else none
  | [] => none

/-- A number of one or two digits. -/
def shortNumber : Part Nat
  | a :: b :: rest =>
    if isDigit a then
      if isDigit b then some (ofDigits [a, b], rest) else some (ofDigits [a], b :: rest)
    else none
  | [a] => if isDigit a then some (ofDigits [a], []) else none
  | [] => none

/-- A number of one or two digits within bounds. -/
def numberIn (lo hi : Nat) : Part Nat := fun cs => do
  let (n, rest) ← shortNumber cs
  if lo ≤ n ∧ n ≤ hi then some (n, rest) else none

/-- A number of two digits up to a bound. -/
def twoDigits (hi : Nat) : Part Nat
  | a :: b :: rest =>
    if isDigit a ∧ isDigit b ∧ ofDigits [a, b] ≤ hi then some (ofDigits [a, b], rest) else none
  | _ => none

/-- A year that can be divided by four has a leap day, with the known exceptions. -/
def isLeap (year : Nat) : Bool := year % 4 = 0 && (year % 100 ≠ 0 || year % 400 = 0)

def daysIn (year month : Nat) : Nat :=
  if month = 2 then (if isLeap year then 29 else 28)
  else if month = 4 ∨ month = 6 ∨ month = 9 ∨ month = 11 then 30
  else 31

def date : Part Unit := fun cs => do
  let digits := cs.takeWhile isDigit
  if digits.length = 4 then
    let year := ofDigits digits
    let ((), cs) ← exactly '-' (cs.drop 4)
    let (month, cs) ← numberIn 1 12 cs
    let ((), cs) ← exactly '-' cs
    let (day, cs) ← shortNumber cs
    if 1 ≤ day ∧ day ≤ daysIn year month then some ((), cs) else none
  else
    none

/-- A fraction of a second, which may be left out. -/
def secondFraction : List Char → List Char
  | mark :: d :: rest =>
    if (mark = '.' ∨ mark = ',') ∧ isDigit d then rest.dropWhile isDigit else mark :: d :: rest
  | cs => cs

def timeOfDay : Part Unit := fun cs => do
  let (_, cs) ← numberIn 0 23 cs
  let ((), cs) ← exactly ':' cs
  let (_, cs) ← numberIn 0 59 cs
  let ((), cs) ← exactly ':' cs
  let (_, cs) ← numberIn 0 59 cs
  return ((), secondFraction cs)

def zone : Part Unit
  | 'Z' :: rest => some ((), rest)
  | sign :: rest =>
    if sign = '+' ∨ sign = '-' then do
      let (_, cs) ← twoDigits 24 rest
      let ((), cs) ← exactly ':' cs
      let (_, cs) ← twoDigits 60 cs
      return ((), cs)
    else none
  | [] => none

/-- What may follow the date of a timestamp. -/
def afterDate : List Char → Bool
  | [] => true
  | 'T' :: cs => (zoned cs).isSome
  | 't' :: cs => (zoned cs).isSome
  | ' ' :: cs => (timeOfDay (cs.dropWhile (· == ' '))).any fun r => r.2.isEmpty
  | _ => false
where
  /-- A time of day with its zone, and nothing after it. -/
  zoned (cs : List Char) : Option Unit := do
    let ((), cs) ← timeOfDay cs
    let ((), cs) ← zone cs
    if cs.isEmpty then some () else none

def isTimestamp (cs : List Char) : Bool := (date cs).any fun r => afterDate r.2

end SierraCasm.Yaml
