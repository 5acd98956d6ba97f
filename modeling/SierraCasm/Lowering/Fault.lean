import SierraCasm.Lowering.Env

/-! # Why a statement cannot be lowered -/

namespace SierraCasm.Lowering

open Sierra

/-- Why a value cannot be used. -/
inductive ValueDefect where
  | lost
  | notStored
  | leftNotStored
  | rightNotUsable
deriving DecidableEq, Repr

def ValueDefect.message : ValueDefect → String
  | .lost => "value was lost across an unknown ap change"
  | .notStored => "expected a stored value"
  | .leftNotStored => "left operand must be a stored value"
  | .rightNotUsable => "right operand must be a stored value or an immediate"

/-- The values that must be on top of the stack. -/
inductive Stacked where
  | returnValues
  | callArguments
deriving DecidableEq, Repr

def Stacked.name : Stacked → String
  | .returnValues => "return values"
  | .callArguments => "call arguments"

/-- What is wrong with a statement. -/
inductive Defect where
  | unreachable
  | undefined (var : VarId)
  | wrongType (var : VarId) (actual expected : Ident)
  | overridden (var : VarId)
  | inconsistent (vars : List VarId)
  | noReferences (source : Nat)
  | returnCount (function : Ident) (expected got : Nat)
  | stillAlive (vars : List VarId)
  | notOnTop (values : Stacked) (cell : Nat)
  | operand (defect : ValueDefect)
  | value (libfunc : String) (defect : ValueDefect)
  /-- a list of cells is too long to be allocated; lowering ends abruptly -/
  | unallocatable
  /-- an invocation does not match its libfunc; no validated program has one -/
  | malformed
deriving DecidableEq, Repr

def Defect.message : Defect → String
  | .unreachable => "statement is unreachable"
  | .undefined v => "variable " ++ v.render ++ " is not defined"
  | .wrongType v actual expected =>
    "variable " ++ v.render ++ " has type " ++ actual.render ++ ", expected " ++ expected.render
  | .overridden v => "variable " ++ v.render ++ " is overridden"
  | .inconsistent vars => "inconsistent references (" ++ renderLive vars ++ ")"
  | .noReferences source =>
    "backward jump from statement " ++ renderIndex source ++
      " reaches a statement with no references"
  | .returnCount f expected got =>
    "function " ++ f.render ++ " returns " ++ toString expected ++ " values, got " ++ toString got
  | .stillAlive vars => "variables " ++ renderLive vars ++ " are still alive at return"
  | .notOnTop values k =>
    values.name ++ " are not on top of the stack (cell " ++ toString k ++ ")"
  | .operand d => d.message
  | .value libfunc d => libfunc ++ ": " ++ d.message
  | .unallocatable => "runtime error: makeslice: len out of range"
  | .malformed => "invocation does not match its libfunc"

/-- A statement that cannot be lowered. -/
structure Fault where
  statement : Nat
  defect : Defect
deriving DecidableEq, Repr

end SierraCasm.Lowering
