import SierraCasm.Document.Key
import SierraCasm.Document.Schema

/-! # Checkers

What the loader asks of the package that parses documents and checks them against the schema,
`cuelang.org/go`.  The loader does not depend on how that is done: it is a parameter
(`Checker`), and `Document.Unification` is the checker that runs.

The values of a repeated key are taken together, so shapes are asked of all values given for a
place: these must agree. -/

namespace SierraCasm.Document

/-- A byte order mark, which may not occur in a document. -/
def byteOrderMark : Char := '\ufeff'

def membersOf : Json → List (String × Json)
  | .obj _ members => members
  | _ => []

namespace Given

/-- The values given for an item of a list. -/
def item (given : Given) (i : Nat) : Given :=
  given.filterMap fun
    | .arr _ items => items[i]?
    | _ => none

/-- The values given for a member, by what keys mean. -/
def labelled (given : Given) (label : String → Label) (l : Label) : Given :=
  ((given.flatMap membersOf).filter fun m => label (Json.content m.1) = l).map (·.2)

end Given

/-- A checker of documents: which texts it parses, which members keys mean, and whether the values
given for a place agree and have a shape. -/
structure Checker where
  parses : String → Bool
  label : String → Label
  conforms : Schema.Shape → Given → Bool

namespace Checker

variable (c : Checker)

def agrees (given : Given) : Bool := c.conforms .any given

def values (key : String) (given : Given) : Given := given.labelled c.label (.field key)

/-- The values given for a member of a record are as they should be. -/
def holds (given : Given) (field : Schema.Field) : Bool :=
  if (c.values field.1 given).isEmpty then !field.2.1
  else c.conforms field.2.2 (c.values field.1 given)

end Checker

end SierraCasm.Document
