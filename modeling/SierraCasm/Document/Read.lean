import SierraCasm.Check
import SierraCasm.Document.Basic
import SierraCasm.Json.Spelling
import SierraCasm.Text.Decimal

/-! # Reading documents

A key may be repeated in an object, so several values may be given for one place of a document.
A reader first checks a document, where the first fault counts, and then takes all values given
for a place, in order, to the value of the place:

* the last number or text counts, and `null` gives none;
* the values given for a member of a record are those of all its objects together;
* a list has the length of the last one given, and each place of it has its own values: those that
  the lists gave it since a list was last absent or empty;
* a value that comes in several forms has the form that was given last, and its payload is read
  from all payloads given for that form.

Keys match without regard to case. -/

namespace SierraCasm.Document

open Sierra Text

/-! ### Faults -/

/-- The values that come in several forms. -/
inductive Tagged where
  | genericArg
  | branchTarget
  | statement
deriving DecidableEq, Repr

def Tagged.name : Tagged → String
  | .genericArg => "generic arg"
  | .branchTarget => "branch target"
  | .statement => "statement"

/-- What is wrong with a value that comes in several forms. -/
inductive FormDefect where
  | unknownVariant (tag : String)
  | variantCount (tags : Nat)
  | invalidInteger (text : String)
deriving DecidableEq, Repr

def FormDefect.message : FormDefect → String
  | .unknownVariant tag => "unknown variant " ++ quoted tag
  | .variantCount n => "expected exactly one variant tag, got " ++ toString n
  | .invalidInteger text => "invalid integer value " ++ quoted text

/-- Why a document cannot be read. -/
inductive ReadFault where
  | wrongType
  | form (value : Tagged) (defect : FormDefect)
deriving DecidableEq, Repr

/-! ### Keys -/

/-- The lower-case form of a character of a key; two letters outside ASCII have one that is. -/
def foldChar (c : Char) : Char :=
  match c with
  | '\u017f' => 's'
  | '\u212a' => 'k'
  | c => c.toLower

/-- The form in which keys are compared. -/
def foldKey (key : String) : String := String.ofList (key.toList.map foldChar)

/-- The values of the members with a given key. -/
def named (key : String) (members : List (String × Json)) : List Json :=
  (members.filter fun m => foldKey (Json.content m.1) == key).map (·.2)

/-- The distinct keys of an object. -/
def distinctKeys (members : List (String × Json)) : List String :=
  (members.map fun m => Json.content m.1).eraseDups

/-- The tag and the payload of a value in several forms; the last of several payloads counts. -/
def tagged? : Json → Option (String × Json)
  | .obj _ members =>
    match distinctKeys members, members.getLast? with
    | [tag], some (_, payload) => some (tag, payload)
    | _, _ => none
  | _ => none

/-! ### Values given for a place -/

namespace Given

/-- The values given for a member of a record. -/
def member (given : Given) (key : String) : Given :=
  given.flatMap fun
    | .obj _ members => named key members
    | _ => []

/-- The last form given, with its payload. -/
def form? (given : Given) : Option (String × Json) := given.getLast?.bind tagged?

/-- The payloads given for a form. -/
def payloads (given : Given) (tag : String) : Given :=
  given.filterMap fun j => (tagged? j).bind fun t => if t.1 = tag then some t.2 else none

end Given

/-- The places of a list, each with the values given for it.  The list has as many places as its
`length` says; those behind it were given values by longer lists. -/
structure Places where
  given : List Given := []
  length : Nat := 0
deriving Repr

namespace Places

/-- Gives one more value to each of the first places. -/
def give : List Given → List Json → List Given
  | given, [] => given
  | [], j :: js => [j] :: give [] js
  | g :: given, j :: js => (g ++ [j]) :: give given js

/-- One more list is given. -/
def next (places : Option Places) : Json → Option Places
  | .null => none
  | .arr _ [] => some {}
  | .arr _ items => some ⟨give ((places.map (·.given)).getD []) items, items.length⟩
  | _ => places

/-- The places of a list, unless it is absent. -/
def ofGiven (given : Given) : Option Places := given.foldl next none

/-- The values given for each place of the list. -/
def current (p : Places) : List Given := p.given.take p.length

end Places

/-! ### Readers -/

/-- How to read a value: what to check, and what the values given for its place mean. -/
structure Reader (α : Type) where
  check : Json → Except ReadFault Unit
  read : Given → α

namespace Reader

/-- Reads a value that stands alone. -/
def run {α : Type} (r : Reader α) (j : Json) : Except ReadFault α := do
  r.check j
  return r.read [j]

/-- A value that is there or not; `null` leaves what was there. -/
def scalar {α : Type} (value? : Json → Option α) (zero : α) : Reader α where
  check := fun
    | .null => .ok ()
    | j => require (value? j).isSome .wrongType
  read := fun given => given.foldl (fun a j => (value? j).getD a) zero

/-- A list. -/
def list {α : Type} (item : Reader α) : Reader (Listing α) where
  check := fun
    | .null => .ok ()
    | .arr _ items => checkAll item.check items
    | _ => .error .wrongType
  read := fun given => (Places.ofGiven given).map fun p => p.current.map item.read

/-- The check of a record by those of its members; other members may be anything. -/
def checkRecord (members : List (String × (Json → Except ReadFault Unit))) :
    Json → Except ReadFault Unit
  | .null => .ok ()
  | .obj _ given => checkAll (fun m =>
      match members.lookup (foldKey (Json.content m.1)) with
      | some check => check m.2
      | none => .ok ()) given
  | _ => .error .wrongType

/-- The check of a value in several forms by those of its payloads. -/
def checkForms (value : Tagged) (forms : List (String × (Json → Except ReadFault Unit))) :
    Json → Except ReadFault Unit
  | .null => .error (.form value (.variantCount 0))
  | .obj text members =>
    match tagged? (.obj text members) with
    | some (tag, payload) =>
      match forms.lookup tag with
      | some check => check payload
      | none => .error (.form value (.unknownVariant tag))
    | none => .error (.form value (.variantCount (distinctKeys members).length))
  | _ => .error .wrongType

/-! ### Scalars -/

/-- A 64-bit id. -/
def idOf? : Json → Option UInt64
  | .num spelling => do
    let n ← natOfChars? spelling.toList
    if n < UInt64.size then some (.ofNat n) else none
  | _ => none

def indexOf? : Json → Option Int
  | .num spelling => do
    let n ← intOfChars? spelling.toList
    if Int64.minValue.toInt ≤ n ∧ n ≤ Int64.maxValue.toInt then some n else none
  | _ => none

def textOf? : Json → Option String
  | .str spelling => some (Json.content spelling)
  | _ => none

/-- The text of a value as an integer is read from it. -/
def integerText : Json → String
  | .null => "null"
  | .bool true => "true"
  | .bool false => "false"
  | .num spelling => spelling
  | .str spelling => Json.content spelling
  | .arr text _ => text
  | .obj text _ => text

def number : Reader UInt64 := scalar idOf? 0

def index : Reader Int := scalar indexOf? 0

def text : Reader String := scalar textOf? ""

/-- An integer of any size, as a number or as a text. -/
def checkInteger (j : Json) : Except ReadFault Unit :=
  require (intOfString? (integerText j)).isSome
    (.form .genericArg (.invalidInteger (integerText j)))

/-! ### Records -/

def ident : Reader Ident where
  check := checkRecord [("id", number.check), ("debug_name", text.check)]
  read := fun given =>
    { id := number.read (given.member "id"), debugName := text.read (given.member "debug_name") }

def var : Reader VarId where
  check := checkRecord [("id", number.check)]
  read := fun given => { id := number.read (given.member "id") }

def arg : Reader GenericArg where
  check := checkForms .genericArg
    [("Type", ident.check), ("UserType", ident.check), ("Value", checkInteger),
     ("Libfunc", ident.check), ("UserFunc", ident.check)]
  read := fun given =>
    match given.form? with
    | some ("UserType", _) => .userType (ident.read (given.payloads "UserType"))
    | some ("Value", payload) => .value ((intOfString? (integerText payload)).getD 0)
    | some ("Libfunc", _) => .libfunc (ident.read (given.payloads "Libfunc"))
    | some ("UserFunc", _) => .userFunc (ident.read (given.payloads "UserFunc"))
    | _ => .type (ident.read (given.payloads "Type"))

def longId : Reader LongId where
  check := checkRecord [("generic_id", text.check), ("generic_args", (list arg).check)]
  read := fun given =>
    { generic := text.read (given.member "generic_id")
      args := (list arg).read (given.member "generic_args") }

def declaration : Reader Declaration where
  check := checkRecord [("id", ident.check), ("long_id", longId.check)]
  read := fun given =>
    { id := ident.read (given.member "id"), longId := longId.read (given.member "long_id") }

/-- The check of a branch target. -/
def checkTarget : Json → Except ReadFault Unit
  | .null => .error (.form .branchTarget (.unknownVariant ""))
  | .str spelling =>
    let tag := Json.content spelling
    require (tag = "Fallthrough") (.form .branchTarget (.unknownVariant tag))
  | j => checkForms .branchTarget [("Statement", index.check)] j

/-- The branch target that a value stands for. -/
def targetOf? : Json → Option Target
  | .str _ => some .fallthrough
  | j => (tagged? j).map fun t => .statement (index.read [t.2])

def target : Reader Target where
  check := checkTarget
  read := fun given => (given.getLast?.bind targetOf?).getD (.statement 0)

def branch : Reader Branch where
  check := checkRecord [("target", target.check), ("results", (list var).check)]
  read := fun given =>
    { target := target.read (given.member "target")
      results := (list var).read (given.member "results") }

def invocation : Reader Invocation where
  check := checkRecord
    [("libfunc_id", ident.check), ("args", (list var).check), ("branches", (list branch).check)]
  read := fun given =>
    { libfunc := ident.read (given.member "libfunc_id")
      args := (list var).read (given.member "args")
      branches := (list branch).read (given.member "branches") }

/-- A statement; the list of a return that is read is always there. -/
def statement : Reader Statement where
  check := checkForms .statement
    [("Invocation", invocation.check), ("Return", (list var).check)]
  read := fun given =>
    match given.form? with
    | some ("Return", _) => .ret (some ((list var).read (given.payloads "Return")).items)
    | _ => .invoke (invocation.read (given.payloads "Invocation"))

def param : Reader Param where
  check := checkRecord [("id", var.check), ("ty", ident.check)]
  read := fun given =>
    { var := var.read (given.member "id"), type := ident.read (given.member "ty") }

def signature : Reader Signature where
  check := checkRecord [("param_types", (list ident).check), ("ret_types", (list ident).check)]
  read := fun given =>
    { paramTypes := (list ident).read (given.member "param_types")
      retTypes := (list ident).read (given.member "ret_types") }

def function : Reader Function where
  check := checkRecord
    [("id", ident.check), ("signature", signature.check), ("params", (list param).check),
     ("entry_point", index.check)]
  read := fun given =>
    { id := ident.read (given.member "id")
      signature := signature.read (given.member "signature")
      params := (list param).read (given.member "params")
      entry := index.read (given.member "entry_point") }

def program : Reader Program where
  check := checkRecord
    [("type_declarations", (list declaration).check),
     ("libfunc_declarations", (list declaration).check),
     ("statements", (list statement).check), ("funcs", (list function).check)]
  read := fun given =>
    { types := (list declaration).read (given.member "type_declarations")
      libfuncs := (list declaration).read (given.member "libfunc_declarations")
      statements := (list statement).read (given.member "statements")
      functions := (list function).read (given.member "funcs") }

/-- A program with debug information, which may be any value. -/
def artifact : Reader Artifact where
  check := program.check
  read := fun given =>
    { program := program.read given, debugInfo := (given.member "debug_info").getLast? }

end Reader

end SierraCasm.Document
