import SierraCasm.Json.Basic
import SierraCasm.Sierra.Program

/-! # Serialized programs

The records that a serialized program consists of.  They differ from the program itself in one
point: a list may be absent, which is not the same as empty when it is written.  `toProgram`
forgets that difference. -/

namespace SierraCasm.Document

open Sierra

/-- A list that may be absent. -/
abbrev Listing (α : Type) := Option (List α)

def Listing.items {α : Type} (l : Listing α) : List α := l.getD []

/-- A list that is absent while it is empty. -/
def Listing.ofList {α : Type} (l : List α) : Listing α := if l.isEmpty then none else some l

/-- Adds an element at the end. -/
def Listing.push {α : Type} (l : Listing α) (a : α) : Listing α := some (l.items ++ [a])

/-- Removes the last element; an absent list stays absent. -/
def Listing.pop {α : Type} (l : Listing α) : Listing α := l.map List.dropLast

/-- A generic name with its arguments. -/
structure LongId where
  generic : String := ""
  args : Listing GenericArg := none
deriving DecidableEq, Repr, Inhabited

/-- A declaration of a concrete type or of a concrete libfunc. -/
structure Declaration where
  id : Ident := {}
  longId : LongId := {}
deriving DecidableEq, Repr, Inhabited

/-- One branch of an invocation. -/
structure Branch where
  target : Target := .statement 0
  results : Listing VarId := none
deriving DecidableEq, Repr

/-- An invocation of a libfunc. -/
structure Invocation where
  libfunc : Ident := {}
  args : Listing VarId := none
  branches : Listing Branch := none
deriving DecidableEq, Repr

inductive Statement where
  | invoke (invocation : Invocation)
  | ret (vars : Listing VarId)
deriving DecidableEq, Repr

structure Signature where
  paramTypes : Listing Ident := none
  retTypes : Listing Ident := none
deriving DecidableEq, Repr

structure Function where
  id : Ident := {}
  signature : Signature := {}
  params : Listing Param := none
  entry : Int := 0
deriving DecidableEq, Repr

structure Program where
  types : Listing Declaration := none
  libfuncs : Listing Declaration := none
  statements : Listing Statement := none
  functions : Listing Function := none
deriving DecidableEq, Repr

/-- A program with debug information, which is passed through as it is. -/
structure Artifact where
  program : Program := {}
  debugInfo : Option Json := none
deriving Repr

/-- The values given for one place of a document, in order: a key may be repeated. -/
abbrev Given := List Json

/-! ### The program that a document stands for -/

def LongId.toLongId (l : LongId) : Sierra.LongId := ⟨l.generic, l.args.items⟩

def Declaration.toDeclaration (d : Declaration) : Sierra.Declaration := ⟨d.id, d.longId.toLongId⟩

def Branch.toBranch (b : Branch) : Sierra.Branch := ⟨b.target, b.results.items⟩

def Statement.toStatement : Statement → Sierra.Statement
  | .invoke i => .invoke ⟨i.libfunc, i.args.items, i.branches.items.map Branch.toBranch⟩
  | .ret vars => .ret vars.items

def Function.toFunction (f : Function) : Sierra.Function where
  id := f.id
  paramTypes := f.signature.paramTypes.items
  retTypes := f.signature.retTypes.items
  params := f.params.items
  entry := f.entry

def Program.toProgram (p : Program) : Sierra.Program where
  types := p.types.items.map Declaration.toDeclaration
  libfuncs := p.libfuncs.items.map Declaration.toDeclaration
  statements := p.statements.items.map Statement.toStatement
  functions := p.functions.items.map Function.toFunction

end SierraCasm.Document
