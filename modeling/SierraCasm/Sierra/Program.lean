import SierraCasm.Sierra.Ident

/-! # Sierra programs

A program declares types and libfuncs by their long ids (a generic name with arguments), lists its
statements, and names the functions whose bodies start at some of them.  A statement is an
invocation of a libfunc or a return; an invocation names one target for each branch of its
libfunc. -/

namespace SierraCasm.Sierra

/-- The kinds of generic arguments. -/
inductive ArgKind where
  | type
  | userType
  | value
  | libfunc
  | userFunc
  | unknown
deriving DecidableEq, Repr

def ArgKind.name : ArgKind → String
  | .type => "Type"
  | .userType => "UserType"
  | .value => "Value"
  | .libfunc => "Libfunc"
  | .userFunc => "UserFunc"
  | .unknown => "Unknown"

/-- One argument of a generic type or libfunc.  `blank n` has a kind number and no content: the
number is not that of a kind, or it is the kind of values and no value was given. -/
inductive GenericArg where
  | type (id : Ident)
  | userType (id : Ident)
  | value (v : Int)
  | libfunc (id : Ident)
  | userFunc (id : Ident)
  | blank (number : Int)
deriving DecidableEq, Repr, Inhabited

namespace GenericArg

/-- The kind number of values. -/
def valueNumber : Int := 2

/-- The argument that has a kind number and nothing else. -/
def ofNumber (n : Int) : GenericArg :=
  if n = 0 then .type {}
  else if n = 1 then .userType {}
  else if n = 3 then .libfunc {}
  else if n = 4 then .userFunc {}
  else .blank n

def kind : GenericArg → ArgKind
  | .type _ => .type
  | .userType _ => .userType
  | .value _ => .value
  | .libfunc _ => .libfunc
  | .userFunc _ => .userFunc
  | .blank n => if n = valueNumber then .value else .unknown

/-- An argument has one of the five kinds and its content. -/
def wellFormed : GenericArg → Bool
  | .blank _ => false
  | _ => true

end GenericArg

/-- A generic name with its arguments. -/
structure LongId where
  generic : String := ""
  args : List GenericArg := []
deriving DecidableEq, Repr, Inhabited

/-- A declaration of a concrete type or of a concrete libfunc. -/
structure Declaration where
  id : Ident := {}
  longId : LongId := {}
deriving DecidableEq, Repr, Inhabited

/-- Where control continues after a branch. -/
inductive Target where
  | fallthrough
  | statement (index : Int)
deriving DecidableEq, Repr

namespace Target

/-- The statement that a target of statement `i` means. -/
def resolve (t : Target) (i : Nat) : Int :=
  match t with
  | .fallthrough => i + 1
  | .statement j => j

/-- The target continues with the next statement. -/
def fallsThrough : Target → Bool
  | .fallthrough => true
  | .statement _ => false

end Target

/-- One branch of an invocation: its target and the variables it binds. -/
structure Branch where
  target : Target := .statement 0
  results : List VarId := []
deriving DecidableEq, Repr

/-- An invocation of a libfunc. -/
structure Invocation where
  libfunc : Ident := {}
  args : List VarId := []
  branches : List Branch := []
deriving DecidableEq, Repr

inductive Statement where
  | invoke (invocation : Invocation)
  | ret (vars : List VarId)
deriving DecidableEq, Repr

/-- A typed function parameter. -/
structure Param where
  var : VarId := {}
  type : Ident := {}
deriving DecidableEq, Repr, Inhabited

/-- A user function: its signature, its parameters and the statement where its body starts. -/
structure Function where
  id : Ident := {}
  paramTypes : List Ident := []
  retTypes : List Ident := []
  params : List Param := []
  entry : Int := 0
deriving DecidableEq, Repr

structure Program where
  types : List Declaration := []
  libfuncs : List Declaration := []
  statements : List Statement := []
  functions : List Function := []
deriving DecidableEq, Repr

namespace Program

/-- The function with the number of `id`, the first if there are several. -/
def function? (p : Program) (id : Ident) : Option Function :=
  p.functions.find? fun f => f.id.same id

/-- The position of the function with the number of `id`. -/
def functionIndex? (p : Program) (id : Ident) : Option Nat :=
  p.functions.findIdx? fun f => f.id.same id

end Program

end SierraCasm.Sierra
