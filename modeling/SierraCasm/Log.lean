import SierraCasm.Text.Quoted

/-! # Log lines

A log entry is one line of `key=value` pairs: its level, its message, and its fields in the order
of their keys. -/

namespace SierraCasm.Log

/-- How detailed an entry is. -/
inductive Level where
  | info
  | debug
  | trace
deriving DecidableEq, Repr

namespace Level

def name : Level → String
  | .info => "info"
  | .debug => "debug"
  | .trace => "trace"

def ofName? : String → Option Level
  | "info" => some .info
  | "debug" => some .debug
  | "trace" => some .trace
  | _ => none

/-- How much detail a level admits. -/
def detail : Level → Nat
  | .info => 0
  | .debug => 1
  | .trace => 2

/-- Entries of a level are shown where `shown` is the most detailed level admitted. -/
def enabledAt (l shown : Level) : Bool := l.detail ≤ shown.detail

end Level

/-- A log entry; fields are given in the order of their keys. -/
structure Entry where
  level : Level
  message : String
  fields : List (String × String) := []
deriving DecidableEq, Repr

/-- Characters that need no quotes. -/
def isBare (c : Char) : Bool := c.isAlphanum || c ∈ "-._/@^+".toList

/-- A value, in quotes if it needs them. -/
def renderValue (s : String) : String := if s.toList.all isBare then s else Text.quoted s

def Entry.render (e : Entry) : String :=
  "level=" ++ e.level.name ++ " msg=" ++ renderValue e.message ++
    String.join (e.fields.map fun f => " " ++ f.1 ++ "=" ++ renderValue f.2) ++ "\n"

end SierraCasm.Log
