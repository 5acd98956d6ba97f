import SierraCasm.Concrete.Fault

/-! # Violations

Everything that can make a program invalid.  Each violation has a code, a subject (the declaration
or statement at fault) and a message. -/

namespace SierraCasm.Registry

open Sierra Concrete

/-- The first thing found wrong with a program. -/
inductive Violation where
  | duplicateType (id : Ident)
  | duplicateLibfunc (id : Ident)
  | duplicateFunction (id : Ident)
  | paramTypeNotDeclared (function type : Ident)
  | returnTypeNotDeclared (function type : Ident)
  | paramCount (function : Ident) (params types : Nat)
  | paramType (function : Ident) (param : Param) (expected : Ident)
  | duplicateParam (function : Ident) (var : VarId)
  | entryOutOfRange (function : Ident) (entry : Int) (statements : Nat)
  | typeSpecialization (id : Ident) (error : SpecializationError)
  | libfuncSpecialization (id : Ident) (error : SpecializationError)
  | libfuncNotDeclared (statement : Nat) (libfunc : Ident)
  | argCount (statement : Nat) (libfunc : Ident) (expected got : Nat)
  | branchCount (statement : Nat) (libfunc : Ident) (expected got : Nat)
  | resultCount (statement : Nat) (libfunc : Ident) (branch expected got : Nat)
  | cannotFallThrough (statement : Nat) (libfunc : Ident) (branch : Nat)
  | mustFallThrough (statement : Nat) (libfunc : Ident) (branch : Nat)
  | targetOutOfRange (statement branch : Nat) (target : Int) (statements : Nat)
deriving DecidableEq, Repr

namespace Violation

def code : Violation → String
  | .duplicateType _ => "E110"
  | .duplicateLibfunc _ => "E110"
  | .duplicateFunction _ => "E110"
  | .paramTypeNotDeclared _ _ => "E111"
  | .returnTypeNotDeclared _ _ => "E111"
  | .paramCount _ _ _ => "E112"
  | .paramType _ _ _ => "E112"
  | .entryOutOfRange _ _ _ => "E113"
  | .typeSpecialization _ _ => "E114"
  | .libfuncSpecialization _ _ => "E115"
  | .libfuncNotDeclared _ _ => "E116"
  | .argCount _ _ _ _ => "E117"
  | .branchCount _ _ _ _ => "E118"
  | .resultCount _ _ _ _ _ => "E119"
  | .cannotFallThrough _ _ _ => "E120"
  | .mustFallThrough _ _ _ => "E120"
  | .targetOutOfRange _ _ _ _ => "E121"
  | .duplicateParam _ _ => "E122"

def ofType (id : Ident) : String := "type " ++ id.render

def ofLibfunc (id : Ident) : String := "libfunc " ++ id.render

def ofFunction (id : Ident) : String := "function " ++ id.render

def ofStatement (i : Nat) : String := "statement " ++ renderIndex i

/-- What a violation is about. -/
def subject : Violation → String
  | .duplicateType id => ofType id
  | .duplicateLibfunc id => ofLibfunc id
  | .duplicateFunction id => ofFunction id
  | .paramTypeNotDeclared f _ => ofFunction f
  | .returnTypeNotDeclared f _ => ofFunction f
  | .paramCount f _ _ => ofFunction f
  | .paramType f _ _ => ofFunction f
  | .duplicateParam f _ => ofFunction f
  | .entryOutOfRange f _ _ => ofFunction f
  | .typeSpecialization id _ => ofType id
  | .libfuncSpecialization id _ => ofLibfunc id
  | .libfuncNotDeclared i _ => ofStatement i
  | .argCount i _ _ _ => ofStatement i
  | .branchCount i _ _ _ => ofStatement i
  | .resultCount i _ _ _ _ => ofStatement i
  | .cannotFallThrough i _ _ => ofStatement i
  | .mustFallThrough i _ _ => ofStatement i
  | .targetOutOfRange i _ _ _ => ofStatement i

/-- The wording for a number that is declared again. -/
def declaredAgain (what : String) (id : Ident) : String :=
  what ++ " id " ++ toString id.id.toNat ++ " is declared more than once"

/-- The wording for a branch of a libfunc. -/
def ofBranch (branch : Nat) (libfunc : Ident) : String :=
  "branch " ++ toString branch ++ " of " ++ libfunc.render

def message : Violation → String
  | .duplicateType id => declaredAgain "type" id
  | .duplicateLibfunc id => declaredAgain "libfunc" id
  | .duplicateFunction id => declaredAgain "function" id
  | .paramTypeNotDeclared _ ty => "param type " ++ ty.render ++ " is not declared"
  | .returnTypeNotDeclared _ ty => "return type " ++ ty.render ++ " is not declared"
  | .paramCount _ params types =>
    toString params ++ " params for " ++ toString types ++ " param types"
  | .paramType _ p expected =>
    "param " ++ p.var.render ++ " has type " ++ p.type.render ++ ", signature expects " ++
      expected.render
  | .duplicateParam _ v => "param " ++ v.render ++ " is declared more than once"
  | .entryOutOfRange _ entry n =>
    "entry point " ++ renderIndex entry ++ " is out of range (" ++ toString n ++ " statements)"
  | .typeSpecialization _ e => e.render
  | .libfuncSpecialization _ e => e.render
  | .libfuncNotDeclared _ lib => "libfunc " ++ lib.render ++ " is not declared"
  | .argCount _ lib expected got =>
    lib.render ++ " takes " ++ toString expected ++ " args, got " ++ toString got
  | .branchCount _ lib expected got =>
    lib.render ++ " has " ++ toString expected ++ " branches, got " ++ toString got
  | .resultCount _ lib b expected got =>
    ofBranch b lib ++ " has " ++ toString expected ++ " results, got " ++ toString got
  | .cannotFallThrough _ lib b => ofBranch b lib ++ " cannot fall through"
  | .mustFallThrough _ lib b => ofBranch b lib ++ " must fall through"
  | .targetOutOfRange _ b target n =>
    "branch " ++ toString b ++ " targets " ++ renderIndex target ++ ", out of range (" ++
      toString n ++ " statements)"

end Violation

end SierraCasm.Registry
