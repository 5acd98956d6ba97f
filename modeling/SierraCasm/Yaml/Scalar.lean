import SierraCasm.Text.Quoted
import SierraCasm.Yaml.Implicit

/-! # Writing a text as a scalar

A text is written plainly if that is possible, otherwise between single quotes, otherwise between
double quotes with escapes.  A text that would be read as something else is always written between
double quotes, and a text of several lines as an indented block. -/

namespace SierraCasm.Yaml

/-! ### Characters -/

/-- The line breaks. -/
def isBreak (c : Char) : Bool :=
  c = '\n' || c = '\r' || c = '\u0085' || c = '\u2028' || c = '\u2029'

def isBlank (c : Char) : Bool := c = ' ' || c = '\t'

/-- Characters that may be written as they are. -/
def isPrintable (c : Char) : Bool :=
  c = '\n' || (' ' ≤ c && c ≤ '~') ||
    ('\u00a0' ≤ c && c.toNat ≤ 0xfffd && c ≠ '\ufeff')

/-- Characters that need an escape. -/
def isSpecial (c : Char) : Bool := c ≠ '\t' && !isPrintable c

/-- Nothing or a blank comes next. -/
def endsWord (next : Option Char) : Bool := next.all isBlank

/-- A character means something to a reader where it stands. -/
def isIndicator (previous : Option Char) (c : Char) (next : Option Char) : Bool :=
  match previous with
  | none =>
    c ∈ "#,[]\x7b\x7d&*!|>'\"%@`".toList || (c ∈ "?:-".toList && endsWord next)
  | some p =>
    (c = ':' && endsWord next) || (c = '#' && (isBlank p || isBreak p || p = '\x00'))

/-- A condition holds for some character with its neighbours. -/
def anyNeighbours (condition : Option Char → Char → Option Char → Bool) :
    Option Char → List Char → Bool
  | _, [] => false
  | previous, c :: rest =>
    condition previous c rest.head? || anyNeighbours condition (some c) rest

/-- Two characters that satisfy conditions stand side by side. -/
def hasPair (first second : Char → Bool) (cs : List Char) : Bool :=
  anyNeighbours (fun _ c next => first c && next.any second) none cs

/-- A space comes right before a line break. -/
def spaceBreak (cs : List Char) : Bool := hasPair (· == ' ') isBreak cs

/-- A line break comes right before a space. -/
def breakSpace (cs : List Char) : Bool := hasPair isBreak (· == ' ') cs

/-! ### Styles -/

/-- How a text is written. -/
inductive Style where
  | plain
  | singleQuoted
  | doubleQuoted
  | block
deriving DecidableEq, Repr

/-- A text can be written plainly. -/
def plainAllowed (cs : List Char) : Bool :=
  let outer (c : Char) : Bool := c = ' ' || isBreak c
  !(cs.take 3 = "---".toList || cs.take 3 = "...".toList || anyNeighbours isIndicator none cs ||
    cs.head?.any outer || cs.getLast?.any outer || cs.any isBreak || cs.any (· == '\t') ||
    cs.any isSpecial)

/-- A text can be written between single quotes. -/
def singleQuotedAllowed (cs : List Char) : Bool :=
  !(breakSpace cs || spaceBreak cs || cs.any (· == '\t') || cs.any isSpecial)

/-- A text can be written as a block. -/
def blockAllowed (cs : List Char) : Bool :=
  !(cs.getLast? = some ' ' || spaceBreak cs || cs.any isSpecial)

def styleOf (s : String) : Style :=
  let cs := s.toList
  if '\n' ∈ cs then (if blockAllowed cs then .block else .doubleQuoted)
  else if !isText s then .doubleQuoted
  else if plainAllowed cs then .plain
  else if singleQuotedAllowed cs then .singleQuoted
  else .doubleQuoted

/-! ### Texts -/

/-- The indentation of lines below a key. -/
def indentation : String := "  "

/-- The characters between single quotes; a line break is followed by an indentation. -/
def singleQuotedBody : Bool → List Char → String
  | _, [] => ""
  | afterBreak, c :: rest =>
    if isBreak c then String.singleton c ++ singleQuotedBody true rest
    else
      (if afterBreak then indentation else "") ++ (if c = '\'' then "''" else String.singleton c) ++
        singleQuotedBody false rest

/-- The upper-case hexadecimal number of a character. -/
def upperHex (width n : Nat) : String :=
  String.ofList ((Text.hex width n).toList.map Char.toUpper)

/-- A character stands for itself between double quotes. -/
def isVerbatim (c : Char) : Bool := isPrintable c && !isBreak c && c ≠ '"' && c ≠ '\\'

/-- The escape sequence of a character. -/
def escape (c : Char) : String :=
  match c with
  | '\x00' => "\\0"
  | '\x07' => "\\a"
  | '\x08' => "\\b"
  | '\t' => "\\t"
  | '\n' => "\\n"
  | '\x0b' => "\\v"
  | '\x0c' => "\\f"
  | '\r' => "\\r"
  | '\x1b' => "\\e"
  | '"' => "\\\""
  | '\\' => "\\\\"
  | '\u0085' => "\\N"
  | '\u00a0' => "\\_"
  | '\u2028' => "\\L"
  | '\u2029' => "\\P"
  | c =>
    if c.toNat ≤ 0xff then "\\x" ++ upperHex 2 c.toNat
    else if c.toNat ≤ 0xffff then "\\u" ++ upperHex 4 c.toNat
    else "\\U" ++ upperHex 8 c.toNat

/-- The characters between double quotes.  Of a text that starts with a byte order mark every
character is escaped. -/
def doubleQuotedBody (cs : List Char) : String :=
  let marked := cs.head? = some '\ufeff'
  String.join (cs.map fun c => if isVerbatim c && !marked then String.singleton c else escape c)

/-- What the head of a block says: whether the first line is indented further, and what becomes of
the line breaks at the end. -/
def blockHead (cs : List Char) : String :=
  let outer (c : Char) : Bool := c = ' ' || isBreak c
  let indent := if cs.head?.any outer then "2" else ""
  let chomp := match cs.reverse with
    | [] => "-"
    | [c] => if isBreak c then "+" else "-"
    | c :: d :: _ => if !isBreak c then "-" else if isBreak d then "+" else ""
  "|" ++ indent ++ chomp

/-- The lines of a block; `inHead` holds while the line of the head is open, `atStart` at the start
of a line.  The line of the last character is closed. -/
def blockLines : Bool → Bool → List Char → String
  | inHead, atStart, [] => if inHead || !atStart then "\n" else ""
  | inHead, atStart, c :: rest =>
    if isBreak c then String.singleton c ++ blockLines false true rest
    else
      (if inHead then "\n" else "") ++ (if atStart then indentation else "") ++
        String.singleton c ++ blockLines false false rest

/-- A text as the value of a key, with the line break after it. -/
def scalarLine (s : String) : String :=
  let cs := s.toList
  match styleOf s with
  | .plain => s ++ "\n"
  | .singleQuoted => "'" ++ singleQuotedBody false cs ++ "'\n"
  | .doubleQuoted => "\"" ++ doubleQuotedBody cs ++ "\"\n"
  | .block => blockHead cs ++ blockLines true true cs

end SierraCasm.Yaml
