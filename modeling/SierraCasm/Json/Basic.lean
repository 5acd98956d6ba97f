import SierraCasm.Text.Quoted

/-! # JSON values as they are spelled

A `Json` tree keeps the spelling of numbers and strings, the order of members and repeated keys,
so that values whose meaning is not looked at pass through unchanged.  Arrays and objects also keep
the text they were read from, which messages quote.  `array` and `object` build values with their
shortest text. -/

namespace SierraCasm

/-- A JSON value.  Strings and keys are spelled as between their quotes. -/
inductive Json where
  | null
  | bool (value : Bool)
  | num (spelling : String)
  | str (spelling : String)
  | arr (text : String) (items : List Json)
  | obj (text : String) (members : List (String × Json))
deriving Repr, Inhabited

namespace Json

/-! ### Text -/

/-- A character of a spelling as it is written; the two line separators always are escaped, and
with `markup` so are the characters that mean something in a web page. -/
def writeChar (markup : Bool) (c : Char) : String :=
  if c = '\u2028' then "\\u2028"
  else if c = '\u2029' then "\\u2029"
  else if markup ∧ (c = '<' ∨ c = '>' ∨ c = '&') then "\\u" ++ Text.hex 4 c.toNat
  else String.singleton c

/-- A spelling between quotes. -/
def writeString (markup : Bool) (spelling : String) : String :=
  "\"" ++ String.join (spelling.toList.map (writeChar markup)) ++ "\""

mutual

/-- The text of a value without blanks. -/
def write (markup : Bool) : Json → String
  | .null => "null"
  | .bool true => "true"
  | .bool false => "false"
  | .num spelling => spelling
  | .str spelling => writeString markup spelling
  | .arr _ items => "[" ++ writeItems markup items ++ "]"
  | .obj _ members => "\x7b" ++ writeMembers markup members ++ "\x7d"

def writeItems (markup : Bool) : List Json → String
  | [] => ""
  | [item] => write markup item
  | item :: items => write markup item ++ "," ++ writeItems markup items

def writeMembers (markup : Bool) : List (String × Json) → String
  | [] => ""
  | [(key, value)] => writeString markup key ++ ":" ++ write markup value
  | (key, value) :: members =>
    writeString markup key ++ ":" ++ write markup value ++ "," ++ writeMembers markup members

end

/-- The text of a value, safe to embed in a web page. -/
def render (j : Json) : String := write true j

/-- The text of a value for a terminal. -/
def renderPlain (j : Json) : String := write false j

/-! ### Construction -/

def array (items : List Json) : Json := .arr ("[" ++ writeItems true items ++ "]") items

def object (members : List (String × Json)) : Json :=
  .obj ("\x7b" ++ writeMembers true members ++ "\x7d") members

def int (n : Int) : Json := .num (toString n)

/-- The spelling of a character within a string. -/
def spellChar (c : Char) : String :=
  match c with
  | '"' => "\\\""
  | '\\' => "\\\\"
  | '\x08' => "\\b"
  | '\x0c' => "\\f"
  | '\n' => "\\n"
  | '\r' => "\\r"
  | '\t' => "\\t"
  | c => if c.toNat < 0x20 then "\\u" ++ Text.hex 4 c.toNat else String.singleton c

/-- The spelling of a text. -/
def spell (s : String) : String := String.join (s.toList.map spellChar)

def string (s : String) : Json := .str (spell s)

end Json

end SierraCasm
