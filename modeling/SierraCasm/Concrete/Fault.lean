import SierraCasm.Sierra.Render

/-! # Why a long id has no concrete meaning

A long id is specialized against the catalog of generic types or libfuncs.  `Reason` lists every
way in which that can fail, `Reason.message` its wording, and `SpecializationError` names the
generic at fault. -/

namespace SierraCasm.Concrete

open Sierra

/-- Why a generic cannot be specialized with the given arguments. -/
inductive Reason where
  | unsupportedType
  | unsupportedLibfunc
  | argumentsNotExpected (got : Nat)
  | oneArgumentExpected (got : Nat)
  | twoArgumentsExpected (got : Nat)
  | typeExpected (index : Nat) (got : ArgKind)
  | typeNotDeclaredBefore (index : Nat) (id : Ident)
  | wrappedNotStorable (id : Ident)
  | boxedNotStorable (id : Ident)
  | userTypeExpectedFirst
  | memberNotStorable (id : Ident)
  | valueExpected (got : ArgKind)
  | outOfRange (value : Int) (type : String)
  | constantsNotSupported (generic : String)
  | singleValueExpected
  | requiredTypeNotDeclared (long : LongId)
  | notStorable (id : Ident)
  | notDroppable (id : Ident)
  | notDuplicatable (id : Ident)
  | notStruct (id : Ident)
  | notConst (id : Ident)
  | singleFunctionExpected
  | functionNotDeclared (id : Ident)
  | segmentExpected
  | segmentOutOfRange (value : Int)
deriving DecidableEq, Repr

def Reason.message : Reason → String
  | .unsupportedType => "unsupported generic type"
  | .unsupportedLibfunc => "unsupported generic libfunc"
  | .argumentsNotExpected n => "expected no generic arguments, got " ++ toString n
  | .oneArgumentExpected n => "expected 1 generic argument, got " ++ toString n
  | .twoArgumentsExpected n => "expected 2 generic arguments, got " ++ toString n
  | .typeExpected i k => "argument " ++ toString i ++ ": expected a type, got " ++ k.name
  | .typeNotDeclaredBefore i id =>
    "argument " ++ toString i ++ ": type " ++ id.render ++ " is not declared before use"
  | .wrappedNotStorable id => "wrapped type " ++ id.render ++ " is not storable"
  | .boxedNotStorable id => "boxed type " ++ id.render ++ " is not storable"
  | .userTypeExpectedFirst => "first argument must be a user type"
  | .memberNotStorable id => "member " ++ id.render ++ " is not storable"
  | .valueExpected k => "argument 1: expected a value, got " ++ k.name
  | .outOfRange v t => "value " ++ toString v ++ " is out of range for " ++ t
  | .constantsNotSupported g => "constants of " ++ g ++ " are not supported"
  | .singleValueExpected => "expected a single value argument"
  | .requiredTypeNotDeclared l => "required type " ++ l.render ++ " is not declared"
  | .notStorable id => "type " ++ id.render ++ " is not storable"
  | .notDroppable id => "type " ++ id.render ++ " is not droppable"
  | .notDuplicatable id => "type " ++ id.render ++ " is not duplicatable"
  | .notStruct id => "type " ++ id.render ++ " is not a struct"
  | .notConst id => "type " ++ id.render ++ " is not a Const type"
  | .singleFunctionExpected => "expected a single user function argument"
  | .functionNotDeclared id => "function " ++ id.render ++ " is not declared"
  | .segmentExpected => "argument 1: expected a segment index value"
  | .segmentOutOfRange v => "segment index " ++ toString v ++ " is out of range"

/-- A generic that cannot be specialized, and why. -/
structure SpecializationError where
  generic : String
  reason : Reason
deriving DecidableEq, Repr

def SpecializationError.render (e : SpecializationError) : String :=
  e.generic ++ ": " ++ e.reason.message

/-- Fails with a reason, naming the generic of a long id. -/
def reject {α : Type} (long : LongId) (reason : Reason) : Except SpecializationError α :=
  .error ⟨long.generic, reason⟩

end SierraCasm.Concrete
