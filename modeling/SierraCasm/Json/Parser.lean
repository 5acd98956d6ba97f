import SierraCasm.Json.Lexer

/-! # Reading JSON

`Json.parse?` reads a text that is one JSON value.  The parser is a stack machine that takes one
token at a time: a frame for each array or object that is open, and what may come next. -/

namespace SierraCasm.Json

/-- An array or object that is open; items, members and text are kept newest first. -/
inductive Frame where
  | arr (text : List Char) (items : List Json)
  | obj (text : List Char) (members : List (String × Json)) (key : String)
deriving Repr

/-- What may come next. -/
inductive Expect where
  /-- a value -/
  | value
  /-- the first item of an array, or its end -/
  | itemOrEnd
  /-- the first key of an object, or its end -/
  | keyOrEnd
  /-- another key -/
  | key
  /-- the colon behind a key -/
  | colon
  /-- a comma, or the end of what is open -/
  | commaOrEnd
deriving DecidableEq, Repr

/-- The state of the parser: what is open, innermost first, and the value of the whole text once
it has been read. -/
structure Machine where
  stack : List Frame := []
  expect : Expect := .value
  result : Option Json := none
deriving Repr

namespace Machine

/-- The text of a token, newest character first. -/
def reversedText : Token → List Char
  | .blank c => [c]
  | .openArray => ['[']
  | .closeArray => [']']
  | .openObject => ['\x7b']
  | .closeObject => ['\x7d']
  | .comma => [',']
  | .colon => [':']
  | .str spelling => '"' :: (spelling.toList.reverse ++ ['"'])
  | .word value => (write false value).toList.reverse

/-- Adds text to the innermost frame. -/
def note (text : List Char) : List Frame → List Frame
  | [] => []
  | .arr t items :: rest => .arr (text ++ t) items :: rest
  | .obj t members key :: rest => .obj (text ++ t) members key :: rest

/-- Puts a finished value, with its text, where it belongs. -/
def deliver (value : Json) (text : List Char) : List Frame → Machine
  | [] => { expect := .commaOrEnd, result := some value }
  | .arr t items :: rest =>
    { stack := .arr (text ++ t) (value :: items) :: rest, expect := .commaOrEnd }
  | .obj t members key :: rest =>
    { stack := .obj (text ++ t) ((key, value) :: members) "" :: rest, expect := .commaOrEnd }

/-- The deepest nesting that is read. -/
def maxDepth : Nat := 10000

/-- Opens an array or object. -/
def opened (m : Machine) (frame : Frame) (expect : Expect) : Option Machine :=
  if m.stack.length < maxDepth then some { stack := frame :: m.stack, expect := expect } else none

/-- A value may start here. -/
def wantsValue (m : Machine) : Bool :=
  m.result.isNone && (m.expect = .value || m.expect = .itemOrEnd)

/-- The innermost frame may end here. -/
def mayClose (m : Machine) (first : Expect) : Bool := m.expect = first || m.expect = .commaOrEnd

/-- Takes a token. -/
def step (m : Machine) (token : Token) : Option Machine :=
  let text := reversedText token
  match token with
  | .blank _ => some { m with stack := note text m.stack }
  | .word value => if m.wantsValue then some (deliver value text m.stack) else none
  | .str spelling =>
    if m.wantsValue then some (deliver (.str spelling) text m.stack)
    else if m.expect = .key ∨ m.expect = .keyOrEnd then
      match m.stack with
      | .obj t members _ :: rest =>
        some { stack := .obj (text ++ t) members spelling :: rest, expect := .colon }
      | _ => none
    else none
  | .openArray => if m.wantsValue then m.opened (.arr text []) .itemOrEnd else none
  | .openObject => if m.wantsValue then m.opened (.obj text [] "") .keyOrEnd else none
  | .colon =>
    if m.expect = .colon then some { stack := note text m.stack, expect := .value } else none
  | .comma =>
    if m.expect = .commaOrEnd then
      match m.stack with
      | [] => none
      | .arr _ _ :: _ => some { stack := note text m.stack, expect := .value }
      | .obj _ _ _ :: _ => some { stack := note text m.stack, expect := .key }
    else none
  | .closeArray =>
    match m.stack with
    | .arr t items :: rest =>
      if m.mayClose .itemOrEnd then
        let t := text ++ t
        some (deliver (.arr (String.ofList t.reverse) items.reverse) t rest)
      else none
    | _ => none
  | .closeObject =>
    match m.stack with
    | .obj t members _ :: rest =>
      if m.mayClose .keyOrEnd then
        let t := text ++ t
        some (deliver (.obj (String.ofList t.reverse) members.reverse) t rest)
      else none
    | _ => none

end Machine

/-- The value that a list of tokens forms. -/
def ofTokens? (tokens : List Token) : Option Json := do
  let m ← tokens.foldlM Machine.step {}
  m.result

def parse? (s : String) : Option Json := do
  let tokens ← Token.scan s.toList
  ofTokens? tokens

end SierraCasm.Json
