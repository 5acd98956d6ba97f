import SierraCasm.Concrete.Type

/-! # Concrete libfuncs

A concrete libfunc is an operation with the signature that the statements which invoke it must
match.  `specializeLibfunc` gives the long id of a libfunc declaration its meaning, asking a
`LibfuncContext` for declared types and functions. -/

namespace SierraCasm.Concrete

open Sierra

/-- How a branch moves the allocation pointer. -/
inductive ApEffect where
  /-- by a fixed number of cells -/
  | known (cells : Int64)
  /-- by the callee's change and the call frame -/
  | call (callee : Ident)
  /-- tracking restarts from a fresh base -/
  | enableTracking
  /-- equal positions are no longer required where branches join -/
  | disableTracking
deriving DecidableEq, Repr

/-- The types that a branch binds and its effect on `ap`. -/
structure BranchSignature where
  outputs : List Ident
  ap : ApEffect
deriving DecidableEq, Repr

/-- What statements that invoke a libfunc must match; `fallthrough` is the branch that continues
with the next statement. -/
structure Signature where
  params : List Ident
  branches : List BranchSignature
  fallthrough : Option Nat
deriving DecidableEq, Repr

/-- The types that branch `b` binds. -/
def Signature.outputs (s : Signature) (b : Nat) : List Ident :=
  (s.branches[b]?.map (·.outputs)).getD []

/-- The arithmetic of the field. -/
inductive BinaryOp where
  | add
  | sub
  | mul
deriving DecidableEq, Repr

def BinaryOp.apply (op : BinaryOp) (a b : Felt) : Felt :=
  match op with
  | .add => a + b
  | .sub => a - b
  | .mul => a * b

/-- What a libfunc does, with the arguments that its code depends on. -/
inductive Operation where
  | felt252Const (value : Int)
  | felt252Binary (op : BinaryOp)
  | felt252IsZero
  | uintConst (value : Int)
  | uintToFelt252
  | storeTemp
  | rename
  | drop
  | dup
  | jump
  | branchAlign
  | disableApTracking
  | enableApTracking
  | functionCall (callee : Function)
  | withdrawGas
  | structConstruct
  | structDeconstruct
  | unbox (contents : Ident)
  | unwrapNonZero
  | constAsImmediate (value : Int)
  | constAsBox (value : Int) (segment : Nat)
deriving DecidableEq, Repr

/-- A specialized libfunc declaration; `type` is the type it is about, if it is about one. -/
structure ConcreteLibfunc where
  operation : Operation
  signature : Signature
  type : Option Ident := none
deriving DecidableEq, Repr

/-- The generic libfuncs of the catalog. -/
inductive GenericLibfunc where
  | felt252Const
  | felt252Binary (op : BinaryOp)
  | felt252IsZero
  | uintConst (bits : Nat)
  | uintToFelt252 (bits : Nat)
  | storeTemp
  | rename
  | drop
  | dup
  | jump
  | branchAlign
  | disableApTracking
  | enableApTracking
  | functionCall
  | withdrawGas
  | structConstruct
  | structDeconstruct
  | unbox
  | unwrapNonZero
  | constAsImmediate
  | constAsBox
deriving DecidableEq, Repr

def GenericLibfunc.ofName? : String → Option GenericLibfunc
  | "felt252_const" => some .felt252Const
  | "felt252_add" => some (.felt252Binary .add)
  | "felt252_sub" => some (.felt252Binary .sub)
  | "felt252_mul" => some (.felt252Binary .mul)
  | "felt252_is_zero" => some .felt252IsZero
  | "u8_const" => some (.uintConst 8)
  | "u16_const" => some (.uintConst 16)
  | "u32_const" => some (.uintConst 32)
  | "u64_const" => some (.uintConst 64)
  | "u128_const" => some (.uintConst 128)
  | "u8_to_felt252" => some (.uintToFelt252 8)
  | "u16_to_felt252" => some (.uintToFelt252 16)
  | "u32_to_felt252" => some (.uintToFelt252 32)
  | "u64_to_felt252" => some (.uintToFelt252 64)
  | "u128_to_felt252" => some (.uintToFelt252 128)
  | "store_temp" => some .storeTemp
  | "rename" => some .rename
  | "drop" => some .drop
  | "dup" => some .dup
  | "jump" => some .jump
  | "branch_align" => some .branchAlign
  | "disable_ap_tracking" => some .disableApTracking
  | "enable_ap_tracking" => some .enableApTracking
  | "function_call" => some .functionCall
  | "withdraw_gas" => some .withdrawGas
  | "struct_construct" => some .structConstruct
  | "struct_deconstruct" => some .structDeconstruct
  | "unbox" => some .unbox
  | "unwrap_non_zero" => some .unwrapNonZero
  | "const_as_immediate" => some .constAsImmediate
  | "const_as_box" => some .constAsBox
  | _ => none

/-- What specialization asks about the declarations of a program. -/
structure LibfuncContext where
  /-- the concrete type declared with a number -/
  type? : TypeLookup
  /-- the first type declared with a long id -/
  lookup? : LongId → Option Ident
  /-- the function declared with a number -/
  function? : Ident → Option Function

/-! ### Required types and arguments -/

/-- A type that the signature needs must be declared. -/
def requireType (ctx : LibfuncContext) (long required : LongId) :
    Except SpecializationError Ident :=
  match ctx.lookup? required with
  | some id => .ok id
  | none => reject long (.requiredTypeNotDeclared required)

/-- The declared field type. -/
def requireFelt (ctx : LibfuncContext) (long : LongId) : Except SpecializationError Ident :=
  requireType ctx long { generic := "felt252" }

def requireUint (ctx : LibfuncContext) (long : LongId) (bits : Nat) :
    Except SpecializationError Ident :=
  requireType ctx long { generic := uintName bits }

/-- The declared wrapper of a type. -/
def requireWrapper (ctx : LibfuncContext) (long : LongId) (wrapper : String) (inner : Ident) :
    Except SpecializationError Ident :=
  requireType ctx long { generic := wrapper, args := [.type inner] }

/-- The only argument as a value. -/
def singleValueArg (long : LongId) : Except SpecializationError Int :=
  match long.args with
  | [.value v] => .ok v
  | _ => reject long .singleValueExpected

/-- The struct that the only argument names, with its members. -/
def structArg (ctx : LibfuncContext) (long : LongId) :
    Except SpecializationError (Ident × List Ident) := do
  let (id, ty) ← singleTypeArg ctx.type? long
  match ty.shape with
  | .struct _ members => return (id, members)
  | _ => reject long (.notStruct id)

/-- The constant that the first argument names: its type and its value. -/
def constArg (ctx : LibfuncContext) (long : LongId) (arg : GenericArg) :
    Except SpecializationError (Ident × Int) := do
  let (id, ty) ← typeArg ctx.type? long 0 arg
  match ty.shape with
  | .const inner v => return (inner, v)
  | _ => reject long (.notConst id)

/-- Segment indices lie below this bound. -/
def segmentBound : Nat := UInt16.size

/-- A segment index. -/
def segmentArg (long : LongId) (arg : GenericArg) : Except SpecializationError Nat :=
  match arg with
  | .value v =>
    if 0 ≤ v ∧ v < segmentBound then .ok v.toNat else reject long (.segmentOutOfRange v)
  | _ => reject long .segmentExpected

/-! ### Signatures -/

/-- A signature with one branch, which falls through. -/
def Signature.single (params outputs : List Ident) (ap : ApEffect := .known 0) : Signature :=
  { params := params, branches := [⟨outputs, ap⟩], fallthrough := some 0 }

/-- A libfunc without arguments that binds nothing. -/
def specializeMarker (long : LongId) (operation : Operation) (ap : ApEffect) :
    Except SpecializationError ConcreteLibfunc := do
  checkNoArgs long
  return { operation := operation, signature := .single [] [] ap }

def specializeFeltConst (ctx : LibfuncContext) (long : LongId) :
    Except SpecializationError ConcreteLibfunc := do
  let v ← singleValueArg long
  if Felt.inRange v then
    let felt ← requireFelt ctx long
    return { operation := .felt252Const v, signature := .single [] [felt], type := some felt }
  else
    reject long (.outOfRange v "felt252")

def specializeFeltBinary (ctx : LibfuncContext) (long : LongId) (op : BinaryOp) :
    Except SpecializationError ConcreteLibfunc := do
  checkNoArgs long
  let felt ← requireFelt ctx long
  return { operation := .felt252Binary op, signature := .single [felt, felt] [felt],
           type := some felt }

/-- The test for zero falls through on zero and jumps with a nonzero value otherwise. -/
def specializeFeltIsZero (ctx : LibfuncContext) (long : LongId) :
    Except SpecializationError ConcreteLibfunc := do
  checkNoArgs long
  let felt ← requireFelt ctx long
  let nonZero ← requireWrapper ctx long "NonZero" felt
  return { operation := .felt252IsZero
           signature :=
             { params := [felt]
               branches := [⟨[], .known 0⟩, ⟨[nonZero], .known 0⟩]
               fallthrough := some 0 }
           type := some felt }

/-- A constant of an unsigned integer type. -/
def specializeUintConst (ctx : LibfuncContext) (long : LongId) (bits : Nat) :
    Except SpecializationError ConcreteLibfunc := do
  let v ← singleValueArg long
  if fitsBits bits v then
    let uint ← requireUint ctx long bits
    return { operation := .uintConst v, signature := .single [] [uint], type := some uint }
  else
    reject long (.outOfRange v (uintName bits))

def specializeUintToFelt (ctx : LibfuncContext) (long : LongId) (bits : Nat) :
    Except SpecializationError ConcreteLibfunc := do
  checkNoArgs long
  let uint ← requireUint ctx long bits
  let felt ← requireFelt ctx long
  return { operation := .uintToFelt252, signature := .single [uint] [felt], type := some uint }

/-- A value is stored on top of the stack. -/
def specializeStoreTemp (ctx : LibfuncContext) (long : LongId) :
    Except SpecializationError ConcreteLibfunc := do
  let (id, ty) ← singleTypeArg ctx.type? long
  if ty.info.storable then
    return { operation := .storeTemp, signature := .single [id] [id] (.known ty.info.size),
             type := some id }
  else
    reject long (.notStorable id)

/-- A value gets a new name. -/
def specializeRename (ctx : LibfuncContext) (long : LongId) :
    Except SpecializationError ConcreteLibfunc := do
  let (id, _) ← singleTypeArg ctx.type? long
  return { operation := .rename, signature := .single [id] [id], type := some id }

/-- A value is given up. -/
def specializeDrop (ctx : LibfuncContext) (long : LongId) :
    Except SpecializationError ConcreteLibfunc := do
  let (id, ty) ← singleTypeArg ctx.type? long
  if ty.info.droppable then
    return { operation := .drop, signature := .single [id] [], type := some id }
  else
    reject long (.notDroppable id)

/-- A value is used twice. -/
def specializeDup (ctx : LibfuncContext) (long : LongId) :
    Except SpecializationError ConcreteLibfunc := do
  let (id, ty) ← singleTypeArg ctx.type? long
  if ty.info.duplicatable then
    return { operation := .dup, signature := .single [id] [id, id], type := some id }
  else
    reject long (.notDuplicatable id)

/-- A jump has one branch, and it does not fall through. -/
def specializeJump (long : LongId) : Except SpecializationError ConcreteLibfunc := do
  checkNoArgs long
  return { operation := .jump
           signature := { params := [], branches := [⟨[], .known 0⟩], fallthrough := none } }

/-- A call has the signature of its callee. -/
def specializeFunctionCall (ctx : LibfuncContext) (long : LongId) :
    Except SpecializationError ConcreteLibfunc :=
  match long.args with
  | [.userFunc id] =>
    match ctx.function? id with
    | some f => .ok { operation := .functionCall f
                      signature := .single f.paramTypes f.retTypes (.call f.id) }
    | none => reject long (.functionNotDeclared id)
  | _ => reject long .singleFunctionExpected

/-- Withdrawing gas falls through on success and jumps when the gas is used up; both branches
hand the builtins back. -/
def specializeWithdrawGas (ctx : LibfuncContext) (long : LongId) :
    Except SpecializationError ConcreteLibfunc := do
  checkNoArgs long
  let rangeCheck ← requireType ctx long { generic := "RangeCheck" }
  let gas ← requireType ctx long { generic := "GasBuiltin" }
  let builtins := [rangeCheck, gas]
  return { operation := .withdrawGas
           signature :=
             { params := builtins
               branches := [⟨builtins, .known 1⟩, ⟨builtins, .known 1⟩]
               fallthrough := some 0 } }

/-- Members become a struct. -/
def specializeStructConstruct (ctx : LibfuncContext) (long : LongId) :
    Except SpecializationError ConcreteLibfunc := do
  let (id, members) ← structArg ctx long
  return { operation := .structConstruct, signature := .single members [id], type := some id }

def specializeStructDeconstruct (ctx : LibfuncContext) (long : LongId) :
    Except SpecializationError ConcreteLibfunc := do
  let (id, members) ← structArg ctx long
  return { operation := .structDeconstruct, signature := .single [id] members, type := some id }

/-- The contents of a box. -/
def specializeUnbox (ctx : LibfuncContext) (long : LongId) :
    Except SpecializationError ConcreteLibfunc := do
  let (id, _) ← singleTypeArg ctx.type? long
  let box ← requireWrapper ctx long "Box" id
  return { operation := .unbox id, signature := .single [box] [id], type := some id }

/-- A nonzero value as a plain one. -/
def specializeUnwrapNonZero (ctx : LibfuncContext) (long : LongId) :
    Except SpecializationError ConcreteLibfunc := do
  let (id, _) ← singleTypeArg ctx.type? long
  let nonZero ← requireWrapper ctx long "NonZero" id
  return { operation := .unwrapNonZero, signature := .single [nonZero] [id], type := some id }

/-- A constant as an immediate. -/
def specializeConstAsImmediate (ctx : LibfuncContext) (long : LongId) :
    Except SpecializationError ConcreteLibfunc :=
  match long.args with
  | [arg] => do
    let (inner, v) ← constArg ctx long arg
    return { operation := .constAsImmediate v, signature := .single [] [inner],
             type := some inner }
  | args => reject long (.oneArgumentExpected args.length)

/-- A constant as the address of a word of its segment. -/
def specializeConstAsBox (ctx : LibfuncContext) (long : LongId) :
    Except SpecializationError ConcreteLibfunc :=
  match long.args with
  | [arg, segmentArgument] => do
    let (inner, v) ← constArg ctx long arg
    let segment ← segmentArg long segmentArgument
    let box ← requireWrapper ctx long "Box" inner
    return { operation := .constAsBox v segment, signature := .single [] [box] (.known 1),
             type := some inner }
  | args => reject long (.twoArgumentsExpected args.length)

def specializeLibfunc (ctx : LibfuncContext) (long : LongId) :
    Except SpecializationError ConcreteLibfunc :=
  match GenericLibfunc.ofName? long.generic with
  | none => reject long .unsupportedLibfunc
  | some .felt252Const => specializeFeltConst ctx long
  | some (.felt252Binary op) => specializeFeltBinary ctx long op
  | some .felt252IsZero => specializeFeltIsZero ctx long
  | some (.uintConst bits) => specializeUintConst ctx long bits
  | some (.uintToFelt252 bits) => specializeUintToFelt ctx long bits
  | some .storeTemp => specializeStoreTemp ctx long
  | some .rename => specializeRename ctx long
  | some .drop => specializeDrop ctx long
  | some .dup => specializeDup ctx long
  | some .jump => specializeJump long
  | some .branchAlign => specializeMarker long .branchAlign (.known 0)
  | some .disableApTracking => specializeMarker long .disableApTracking .disableTracking
  | some .enableApTracking => specializeMarker long .enableApTracking .enableTracking
  | some .functionCall => specializeFunctionCall ctx long
  | some .withdrawGas => specializeWithdrawGas ctx long
  | some .structConstruct => specializeStructConstruct ctx long
  | some .structDeconstruct => specializeStructDeconstruct ctx long
  | some .unbox => specializeUnbox ctx long
  | some .unwrapNonZero => specializeUnwrapNonZero ctx long
  | some .constAsImmediate => specializeConstAsImmediate ctx long
  | some .constAsBox => specializeConstAsBox ctx long

end SierraCasm.Concrete
