import SierraCasm.Text.Printable

/-! # Quoted text

Text between quotes as messages show it: printable characters stand for themselves, the quote and
the backslash are escaped, and all else is written as a short escape or by its number in
hexadecimal. -/

namespace SierraCasm.Text

/-- The lower-case hexadecimal digit of a number below sixteen. -/
def hexDigit (n : Nat) : Char := Nat.digitChar (n % 16)

/-- A number in a fixed count of lower-case hexadecimal digits. -/
def hex : Nat → Nat → String
  | 0, _ => ""
  | width + 1, n => hex width (n / 16) ++ String.singleton (hexDigit n)

/-- A character within quotes of a given kind. -/
def quoteChar (quote c : Char) : String :=
  if c = quote ∨ c = '\\' then "\\" ++ String.singleton c
  else if isPrintable c then String.singleton c
  else
    match c with
    | '\x07' => "\\a"
    | '\x08' => "\\b"
    | '\x0c' => "\\f"
    | '\n' => "\\n"
    | '\r' => "\\r"
    | '\t' => "\\t"
    | '\x0b' => "\\v"
    | c =>
      if c.toNat < 0x20 ∨ c.toNat = 0x7f then "\\x" ++ hex 2 c.toNat
      else if c.toNat < 0x10000 then "\\u" ++ hex 4 c.toNat
      else "\\U" ++ hex 8 c.toNat

/-- Text between double quotes. -/
def quoted (s : String) : String :=
  "\"" ++ String.join (s.toList.map (quoteChar '"')) ++ "\""

/-- A character between single quotes. -/
def quotedChar (c : Char) : String := "'" ++ quoteChar '\'' c ++ "'"

end SierraCasm.Text
