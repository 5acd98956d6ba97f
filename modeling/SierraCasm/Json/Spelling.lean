import SierraCasm.Json.Basic

/-! # What spellings stand for

The content of a spelled string: escapes are resolved, and two `\u` escapes that form a surrogate
pair stand for one character.  A surrogate without its partner stands for no character
(`contents` gives `none` there); `content` shows the replacement character instead. -/

namespace SierraCasm.Json

/-- A character, or the code unit of a `\u` escape. -/
inductive Unit16 where
  | char (c : Char)
  | code (n : Nat)
deriving DecidableEq, Repr

/-- The value of a hexadecimal digit. -/
def hexValue? (c : Char) : Option Nat :=
  if '0' ≤ c ∧ c ≤ '9' then some (c.toNat - '0'.toNat)
  else if 'a' ≤ c ∧ c ≤ 'f' then some (c.toNat - 'a'.toNat + 10)
  else if 'A' ≤ c ∧ c ≤ 'F' then some (c.toNat - 'A'.toNat + 10)
  else none

/-- The value of some hexadecimal digits. -/
def ofHex (digits : List Char) : Nat :=
  digits.foldl (fun n c => 16 * n + (hexValue? c).getD 0) 0

/-- The character of a one-letter escape. -/
def shortEscape (c : Char) : Char :=
  match c with
  | 'b' => '\x08'
  | 'f' => '\x0c'
  | 'n' => '\n'
  | 'r' => '\r'
  | 't' => '\t'
  | c => c

/-- Resolves the escapes of a spelling. -/
def units : List Char → List Unit16
  | '\\' :: 'u' :: a :: b :: c :: d :: rest => .code (ofHex [a, b, c, d]) :: units rest
  | '\\' :: c :: rest => .char (shortEscape c) :: units rest
  | c :: rest => .char c :: units rest
  | [] => []

/-- The first half of a surrogate pair. -/
def isHigh (n : Nat) : Bool := 0xD800 ≤ n && n < 0xDC00

/-- The second half of a surrogate pair. -/
def isLow (n : Nat) : Bool := 0xDC00 ≤ n && n < 0xE000

/-- The character of a surrogate pair. -/
def ofPair (high low : Nat) : Char :=
  Char.ofNat (0x10000 + (high - 0xD800) * 0x400 + (low - 0xDC00))

/-- Joins surrogate pairs; half a pair is no character. -/
def joinPairs : List Unit16 → List (Option Char)
  | .code a :: .code b :: rest =>
    if isHigh a && isLow b then some (ofPair a b) :: joinPairs rest
    else if isHigh a || isLow a then none :: joinPairs (.code b :: rest)
    else some (Char.ofNat a) :: joinPairs (.code b :: rest)
  | .code a :: rest =>
    (if isHigh a || isLow a then none else some (Char.ofNat a)) :: joinPairs rest
  | .char c :: rest => some c :: joinPairs rest
  | [] => []

/-- The characters that a spelling stands for. -/
def contents (spelling : String) : List (Option Char) := joinPairs (units spelling.toList)

/-- The text that a spelling stands for, with the replacement character for half a surrogate
pair. -/
def content (spelling : String) : String :=
  String.ofList ((contents spelling).map fun c => c.getD '\uFFFD')

/-- The text that a spelling stands for, if it has no half of a surrogate pair. -/
def content? (spelling : String) : Option String :=
  ((contents spelling).mapM id).map String.ofList

end SierraCasm.Json
