import SierraCasm.Check
import SierraCasm.Concrete.Libfunc
import SierraCasm.Registry.Violation
import SierraCasm.Sierra.Key

/-! # The registry of a program

`Registry.build` validates a program and records the concrete meaning of every declaration.  A
registry exists only for a valid program.  The checks run in a fixed order: repeated ids,
functions, types, libfuncs, statements; the first violation is reported. -/

namespace SierraCasm

open Sierra Concrete

/-- The concrete declarations of a validated program, in the order of the program. -/
structure Registry where
  program : Program
  types : List (Ident × ConcreteType)
  libfuncs : List (Ident × ConcreteLibfunc)

namespace Registry

/-! ### Look-up by number and by long id -/

/-- The entry with the number of `id`. -/
def findIdent {α : Type} (table : List (Ident × α)) (id : Ident) : Option α :=
  (table.find? fun entry => entry.1.same id).map (·.2)

/-- The first of the concrete types with the key of a long id. -/
def findLongId (types : List (Ident × ConcreteType)) (long : LongId) : Option Ident :=
  (types.find? fun entry => entry.2.info.longId.key == long.key).map (·.1)

/-- The concrete type declared with a number. -/
def type? (r : Registry) (id : Ident) : Option ConcreteType := findIdent r.types id

/-- The first type declared with a long id. -/
def lookupType? (r : Registry) (long : LongId) : Option Ident := findLongId r.types long

def libfunc? (r : Registry) (id : Ident) : Option ConcreteLibfunc := findIdent r.libfuncs id

def function? (r : Registry) (id : Ident) : Option Function := r.program.function? id

/-- What the declarations of a program answer to the specialization of libfuncs. -/
def context (program : Program) (types : List (Ident × ConcreteType)) : LibfuncContext :=
  { type? := findIdent types, lookup? := findLongId types, function? := program.function? }

/-- What a registry answers to the specialization of libfuncs. -/
def libfuncContext (r : Registry) : LibfuncContext := context r.program r.types

/-! ### Repeated ids -/

/-- The first identifier whose number was seen before. -/
def firstRepeated : List UInt64 → List Ident → Option Ident
  | _, [] => none
  | seen, id :: ids => if id.id ∈ seen then some id else firstRepeated (id.id :: seen) ids

/-- The numbers of some identifiers are pairwise distinct. -/
def checkDistinct (violation : Ident → Violation) (ids : List Ident) : Except Violation Unit :=
  match firstRepeated [] ids with
  | some id => .error (violation id)
  | none => .ok ()

/-- The numbers of types, of libfuncs and of functions are each pairwise distinct. -/
def checkDuplicates (p : Program) : Except Violation Unit := do
  checkDistinct .duplicateType (p.types.map (·.id))
  checkDistinct .duplicateLibfunc (p.libfuncs.map (·.id))
  checkDistinct .duplicateFunction (p.functions.map (·.id))

/-! ### Functions -/

/-- A type is declared in a program. -/
def declared (p : Program) (id : Ident) : Bool := p.types.any fun d => d.id.same id

/-- Each parameter has the type that the signature gives it, and no variable is bound twice. -/
def checkParams (f : Function) : List UInt64 → List (Param × Ident) → Except Violation Unit
  | _, [] => .ok ()
  | bound, (p, expected) :: rest => do
    require (p.type.same expected) (.paramType f.id p expected)
    require (p.var.id ∉ bound) (.duplicateParam f.id p.var)
    checkParams f (p.var.id :: bound) rest

/-- The types of a function are declared, its parameters match its signature, and its entry point
is a statement or the end of the program (an empty body). -/
def checkFunction (p : Program) (f : Function) : Except Violation Unit := do
  checkAll (fun ty => require (declared p ty) (.paramTypeNotDeclared f.id ty)) f.paramTypes
  checkAll (fun ty => require (declared p ty) (.returnTypeNotDeclared f.id ty)) f.retTypes
  require (f.params.length == f.paramTypes.length)
    (.paramCount f.id f.params.length f.paramTypes.length)
  checkParams f [] (f.params.zip f.paramTypes)
  require (0 ≤ f.entry && f.entry ≤ p.statements.length)
    (.entryOutOfRange f.id f.entry p.statements.length)

/-! ### Types and libfuncs -/

/-- Specializes type declarations in order; each one sees those before it. -/
def specializeTypes (known : List (Ident × ConcreteType)) :
    List Declaration → Except Violation (List (Ident × ConcreteType))
  | [] => .ok known
  | d :: ds =>
    match specializeType (findIdent known) d.longId with
    | .ok ty => specializeTypes (known ++ [(d.id, ty)]) ds
    | .error e => .error (.typeSpecialization d.id e)

/-- Specializes a libfunc declaration. -/
def specializeDeclaration (ctx : LibfuncContext) (d : Declaration) :
    Except Violation (Ident × ConcreteLibfunc) :=
  match specializeLibfunc ctx d.longId with
  | .ok lib => .ok (d.id, lib)
  | .error e => .error (.libfuncSpecialization d.id e)

/-! ### Statements -/

/-- A branch binds what its libfunc gives, falls through exactly where the signature says so, and
otherwise targets a statement. -/
def checkBranch (n i : Nat) (lib : Ident) (sig : Signature) (b : Nat) (branch : Branch)
    (expected : BranchSignature) : Except Violation Unit := do
  require (branch.results.length == expected.outputs.length)
    (.resultCount i lib b expected.outputs.length branch.results.length)
  match branch.target with
  | .fallthrough => require (sig.fallthrough == some b) (.cannotFallThrough i lib b)
  | .statement t => do
    require (sig.fallthrough != some b) (.mustFallThrough i lib b)
    require (0 ≤ t && t < n) (.targetOutOfRange i b t n)

/-- The branches of an invocation, numbered from `b`. -/
def checkBranches (n i : Nat) (lib : Ident) (sig : Signature) (b : Nat) :
    List (Branch × BranchSignature) → Except Violation Unit
  | [] => .ok ()
  | (branch, expected) :: rest => do
    checkBranch n i lib sig b branch expected
    checkBranches n i lib sig (b + 1) rest

/-- An invocation matches the signature of its libfunc. -/
def checkInvocation (n : Nat) (libfunc? : Ident → Option ConcreteLibfunc) (i : Nat)
    (inv : Invocation) : Except Violation Unit :=
  match libfunc? inv.libfunc with
  | none => .error (.libfuncNotDeclared i inv.libfunc)
  | some lib => do
    let sig := lib.signature
    require (inv.args.length == sig.params.length)
      (.argCount i inv.libfunc sig.params.length inv.args.length)
    require (inv.branches.length == sig.branches.length)
      (.branchCount i inv.libfunc sig.branches.length inv.branches.length)
    checkBranches n i inv.libfunc sig 0 (inv.branches.zip sig.branches)

/-- Every statement that invokes a libfunc matches its signature. -/
def checkStatement (n : Nat) (libfunc? : Ident → Option ConcreteLibfunc) (s : Statement × Nat) :
    Except Violation Unit :=
  match s.1 with
  | .ret _ => .ok ()
  | .invoke inv => checkInvocation n libfunc? s.2 inv

/-! ### The whole program -/

/-- Validates a program and returns its registry. -/
def build (p : Program) : Except Violation Registry := do
  checkDuplicates p
  checkAll (checkFunction p) p.functions
  let types ← specializeTypes [] p.types
  let libfuncs ← p.libfuncs.mapM (specializeDeclaration (context p types))
  checkAll (checkStatement p.statements.length (findIdent libfuncs)) p.statements.zipIdx
  return ⟨p, types, libfuncs⟩

end Registry

end SierraCasm
