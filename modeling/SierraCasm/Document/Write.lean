import SierraCasm.Document.Basic

/-! # Writing documents

The JSON form of each record: members in a fixed order, an absent list as `null`, and a value with
several forms as an object with one member that names the form.  Only an argument without content
has no JSON form. -/

namespace SierraCasm.Document

open Sierra

/-- Why a record has no JSON form. -/
inductive WriteFault where
  | noValue
  | unknownKind (number : Int)
deriving DecidableEq, Repr

def WriteFault.message : WriteFault → String
  | .noValue => "generic arg: nil value"
  | .unknownKind n => "generic arg: unknown kind " ++ toString n

/-- A value in one of several forms. -/
def tagged (tag : String) (payload : Json) : Json := .object [(tag, payload)]

/-- A list, or `null` if it is absent. -/
def writeListing {α : Type} (write : α → Json) : Listing α → Json
  | none => .null
  | some items => .array (items.map write)

/-- A list whose elements may have no JSON form. -/
def tryWriteListing {α : Type} (write : α → Except WriteFault Json) :
    Listing α → Except WriteFault Json
  | none => .ok .null
  | some items => do return .array (← items.mapM write)

/-- An identifier; the debug name is left out if it is empty. -/
def writeIdent (i : Ident) : Json :=
  .object (("id", .int i.id.toNat) ::
    if i.debugName = "" then [] else [("debug_name", .string i.debugName)])

def writeVar (v : VarId) : Json := .object [("id", .int v.id.toNat)]

def writeArg : GenericArg → Except WriteFault Json
  | .type id => .ok (tagged "Type" (writeIdent id))
  | .userType id => .ok (tagged "UserType" (writeIdent id))
  | .value v => .ok (tagged "Value" (.int v))
  | .libfunc id => .ok (tagged "Libfunc" (writeIdent id))
  | .userFunc id => .ok (tagged "UserFunc" (writeIdent id))
  | .blank n => .error (if n = GenericArg.valueNumber then .noValue else .unknownKind n)

def writeLongId (l : LongId) : Except WriteFault Json := do
  return .object
    [("generic_id", .string l.generic), ("generic_args", ← tryWriteListing writeArg l.args)]

def writeDeclaration (d : Declaration) : Except WriteFault Json := do
  return .object [("id", writeIdent d.id), ("long_id", ← writeLongId d.longId)]

def writeTarget : Target → Json
  | .fallthrough => .string "Fallthrough"
  | .statement i => tagged "Statement" (.int i)

def writeBranch (b : Branch) : Json :=
  .object [("target", writeTarget b.target), ("results", writeListing writeVar b.results)]

def writeInvocation (i : Invocation) : Json :=
  .object
    [("libfunc_id", writeIdent i.libfunc), ("args", writeListing writeVar i.args),
     ("branches", writeListing writeBranch i.branches)]

/-- A statement; the absent list of a return is written as an empty one. -/
def writeStatement : Statement → Json
  | .invoke i => tagged "Invocation" (writeInvocation i)
  | .ret vars => tagged "Return" (.array (vars.items.map writeVar))

def writeParam (p : Param) : Json :=
  .object [("id", writeVar p.var), ("ty", writeIdent p.type)]

def writeSignature (s : Signature) : Json :=
  .object
    [("param_types", writeListing writeIdent s.paramTypes),
     ("ret_types", writeListing writeIdent s.retTypes)]

def writeFunction (f : Function) : Json :=
  .object
    [("id", writeIdent f.id), ("signature", writeSignature f.signature),
     ("params", writeListing writeParam f.params), ("entry_point", .int f.entry)]

def programMembers (p : Program) : Except WriteFault (List (String × Json)) := do
  return [("type_declarations", ← tryWriteListing writeDeclaration p.types),
    ("libfunc_declarations", ← tryWriteListing writeDeclaration p.libfuncs),
    ("statements", writeListing writeStatement p.statements),
    ("funcs", writeListing writeFunction p.functions)]

def writeProgram (p : Program) : Except WriteFault Json := do
  return .object (← programMembers p)

/-- A program with its debug information, if it has any. -/
def writeArtifact (a : Artifact) : Except WriteFault Json := do
  let members ← programMembers a.program
  return .object (members ++ (a.debugInfo.map fun j => ("debug_info", j)).toList)

end SierraCasm.Document
