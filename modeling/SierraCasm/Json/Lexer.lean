import SierraCasm.Json.Spelling

/-! # JSON tokens

`Token.scan` cuts a text into tokens.  It reads one character at a time in one of a few modes, and
no token is dropped: the texts of the tokens, blanks included, make up the text again.  Words are
what stands between blanks, punctuation and strings; each must be a number or one of three
names. -/

namespace SierraCasm.Json

/-- A token of JSON text. -/
inductive Token where
  | blank (c : Char)
  | openArray
  | closeArray
  | openObject
  | closeObject
  | comma
  | colon
  | str (spelling : String)
  | word (value : Json)
deriving Repr

/-! ### Numbers -/

/-- How far a number has been read. -/
inductive NumberState where
  | start
  | sign
  | zero
  | digits
  | point
  | fraction
  | exponent
  | exponentSign
  | exponentDigits
deriving DecidableEq, Repr

namespace NumberState

/-- Reads one character of a number. -/
def step (s : NumberState) (c : Char) : Option NumberState :=
  let digit := '0' ≤ c && c ≤ '9'
  match s with
  | .start =>
    if c = '-' then some .sign else if c = '0' then some .zero
    else if digit then some .digits else none
  | .sign => if c = '0' then some .zero else if digit then some .digits else none
  | .zero => if c = '.' then some .point else if c = 'e' ∨ c = 'E' then some .exponent else none
  | .digits =>
    if digit then some .digits else if c = '.' then some .point
    else if c = 'e' ∨ c = 'E' then some .exponent else none
  | .point => if digit then some .fraction else none
  | .fraction =>
    if digit then some .fraction else if c = 'e' ∨ c = 'E' then some .exponent else none
  | .exponent =>
    if digit then some .exponentDigits
    else if c = '+' ∨ c = '-' then some .exponentSign else none
  | .exponentSign => if digit then some .exponentDigits else none
  | .exponentDigits => if digit then some .exponentDigits else none

/-- A number may end here. -/
def final : NumberState → Bool
  | .zero => true
  | .digits => true
  | .fraction => true
  | .exponentDigits => true
  | _ => false

end NumberState

/-- A text is a number. -/
def isNumber (cs : List Char) : Bool := (cs.foldlM NumberState.step .start).any NumberState.final

/-- The value of a word. -/
def ofWord? (cs : List Char) : Option Json :=
  if cs = "true".toList then some (.bool true)
  else if cs = "false".toList then some (.bool false)
  else if cs = "null".toList then some .null
  else if isNumber cs then some (.num (String.ofList cs))
  else none

/-! ### The scanner -/

/-- Where the scanner is: between tokens, in a word, or in a string, after a backslash of it, or
in a `\u` escape with some digits to go.  Characters read are kept newest first. -/
inductive Mode where
  | idle
  | word (read : List Char)
  | string (read : List Char)
  | escape (read : List Char)
  | unicode (digits : Nat) (read : List Char)
deriving DecidableEq, Repr

/-- The state of the scanner, with the tokens found, newest first. -/
structure Scan where
  mode : Mode := .idle
  tokens : List Token := []
deriving Repr

namespace Scan

/-- The blanks of JSON. -/
def isBlank (c : Char) : Bool := c = ' ' || c = '\t' || c = '\n' || c = '\r'

/-- The token of a punctuation mark or blank. -/
def mark? (c : Char) : Option Token :=
  match c with
  | '[' => some .openArray
  | ']' => some .closeArray
  | '\x7b' => some .openObject
  | '\x7d' => some .closeObject
  | ',' => some .comma
  | ':' => some .colon
  | c => if isBlank c then some (.blank c) else none

/-- Reads a character between tokens. -/
def between (tokens : List Token) (c : Char) : Scan :=
  match mark? c with
  | some token => { tokens := token :: tokens }
  | none => if c = '"' then ⟨.string [], tokens⟩ else ⟨.word [c], tokens⟩

/-- Reads one character. -/
def step (s : Scan) (c : Char) : Option Scan :=
  match s.mode with
  | .idle => some (between s.tokens c)
  | .word read =>
    if (mark? c).isSome || c = '"' then do
      let value ← ofWord? read.reverse
      return between (.word value :: s.tokens) c
    else
      some ⟨.word (c :: read), s.tokens⟩
  | .string read =>
    if c = '"' then some ⟨.idle, .str (String.ofList read.reverse) :: s.tokens⟩
    else if c = '\\' then some ⟨.escape (c :: read), s.tokens⟩
    else if c.toNat < 0x20 then none
    else some ⟨.string (c :: read), s.tokens⟩
  | .escape read =>
    if c = 'u' then some ⟨.unicode 4 (c :: read), s.tokens⟩
    else if c ∈ "\"\\/bfnrt".toList then some ⟨.string (c :: read), s.tokens⟩
    else none
  | .unicode digits read =>
    if (hexValue? c).isSome then
      some ⟨if digits ≤ 1 then .string (c :: read) else .unicode (digits - 1) (c :: read), s.tokens⟩
    else
      none

/-- The tokens at the end of the text. -/
def finish (s : Scan) : Option (List Token) :=
  match s.mode with
  | .idle => some s.tokens.reverse
  | .word read => do
    let value ← ofWord? read.reverse
    return (.word value :: s.tokens).reverse
  | _ => none

end Scan

def Token.scan (cs : List Char) : Option (List Token) := do
  let s ← cs.foldlM Scan.step {}
  s.finish

end SierraCasm.Json
