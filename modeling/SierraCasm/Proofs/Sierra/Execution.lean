import SierraCasm.Proofs.Casm.Field
import SierraCasm.Registry.Basic

/-! # Executing Sierra

The values of variables and what libfuncs do with them.  A statement takes its arguments out of the
store, so a variable is used once; a branch binds its results, and a variable that is alive is not
bound again.  A call enters its callee with nothing but the arguments and leaves a frame behind,
and a return hands its values to the latest frame.  `step` is one statement; it knows nothing of
cells, registers or addresses. -/

namespace SierraCasm.Sierra

open Concrete

/-! ### Values -/

/-- The value of a variable. -/
inductive Value where
  /-- an element of the field: also an integer, a counter or the address of a builtin -/
  | word (x : Felt)
  | struct (members : List Value)
  | box (contents : Value)
  /-- a value that nothing can be computed from -/
  | blank

end SierraCasm.Sierra

namespace SierraCasm.Concrete

open Sierra

/-- What a libfunc does with its arguments: the branch it takes and the values that the branch
binds.  Calls are not made here. -/
def Operation.eval : Operation → List Value → Option (Nat × List Value)
  | .felt252Const v, [] => some (0, [.word (Felt.ofInt v)])
  | .uintConst v, [] => some (0, [.word (Felt.ofInt v)])
  | .constAsImmediate v, [] => some (0, [.word (Felt.ofInt v)])
  | .constAsBox v _, [] => some (0, [.box (.word (Felt.ofInt v))])
  | .felt252Binary op, [.word x, .word y] => some (0, [.word (op.apply x y)])
  | .felt252IsZero, [.word x] => some (if x = 0 then (0, []) else (1, [.word x]))
  | .withdrawGas, [rangeCheck, .word gas] =>
    some (if gas = 0 then 1 else 0, [rangeCheck, .word gas])
  | .storeTemp, [v] => some (0, [v])
  | .rename, [v] => some (0, [v])
  | .uintToFelt252, [v] => some (0, [v])
  | .unwrapNonZero, [v] => some (0, [v])
  | .dup, [v] => some (0, [v, v])
  | .drop, [_] => some (0, [])
  | .structConstruct, members => some (0, [.struct members])
  | .structDeconstruct, [.struct members] => some (0, members)
  | .unbox _, [.box v] => some (0, [v])
  | .jump, [] => some (0, [])
  | .branchAlign, [] => some (0, [])
  | .disableApTracking, [] => some (0, [])
  | .enableApTracking, [] => some (0, [])
  | _, _ => none

end SierraCasm.Concrete

namespace SierraCasm.Sierra

open Concrete

/-! ### Stores -/

/-- The variables that are alive, with their values. -/
abbrev Store := VarId → Option Value

namespace Store

def empty : Store := fun _ => none

def erase (s : Store) (v : VarId) : Store := fun w => if w = v then none else s w

def set (s : Store) (v : VarId) (x : Value) : Store := fun w => if w = v then some x else s w

/-- Takes the values of some variables out of a store. -/
def take : Store → List VarId → Option (List Value × Store)
  | s, [] => some ([], s)
  | s, v :: vs =>
    (s v).bind fun x => (take (s.erase v) vs).map fun taken => (x :: taken.1, taken.2)

/-- Gives values to variables that are not alive. -/
def bind : Store → List VarId → List Value → Option Store
  | s, v :: vs, x :: xs => if (s v).isSome then none else bind (s.set v x) vs xs
  | s, [], [] => some s
  | _, _, _ => none

end Store

/-! ### Steps -/

/-- A caller that waits for the values of a call. -/
structure Frame where
  /-- where it goes on -/
  target : Nat
  /-- the variables that the values are for -/
  results : List VarId
  store : Store

/-- The state of an execution. -/
inductive Config where
  | running (statement : Nat) (store : Store) (callers : List Frame)
  | finished (values : List Value)

/-- Hands the values of a return to the latest caller. -/
def resume (values : List Value) : List Frame → Option Config
  | [] => some (.finished values)
  | frame :: callers =>
    (frame.store.bind frame.results values).map fun store => .running frame.target store callers

/-- Invokes the libfunc `lib` at statement `i` with the given arguments and what is left of the
store. -/
def invoke (lib : ConcreteLibfunc) (i : Nat) (branches : List Branch) (args : List Value)
    (rest : Store) (callers : List Frame) : Option Config :=
  match lib.operation with
  | .functionCall callee =>
    branches[0]?.bind fun branch =>
      (Store.empty.bind (callee.params.map (·.var)) args).map fun store =>
        .running callee.entry.toNat store
          (⟨(branch.target.resolve i).toNat, branch.results, rest⟩ :: callers)
  | operation =>
    (operation.eval args).bind fun taken =>
      branches[taken.1]?.bind fun branch =>
        (rest.bind branch.results taken.2).map fun store =>
          .running (branch.target.resolve i).toNat store callers

/-- Executes one statement. -/
def step (r : Registry) : Config → Option Config
  | .finished _ => none
  | .running i store callers =>
    match r.program.statements[i]? with
    | none => none
    | some (.ret vars) => (store.take vars).bind fun taken => resume taken.1 callers
    | some (.invoke inv) =>
      (r.libfunc? inv.libfunc).bind fun lib =>
        (store.take inv.args).bind fun taken =>
          invoke lib i inv.branches taken.1 taken.2 callers

section steps

variable {r : Registry} {i : Nat} {store rest : Store} {callers : List Frame} {values : List Value}

theorem step_of_ret {vars : List VarId} (hi : r.program.statements[i]? = some (.ret vars))
    (htake : store.take vars = some (values, rest)) :
    step r (.running i store callers) = resume values callers := by
  simp [step, hi, htake]

theorem step_of_invoke {inv : Invocation} {lib : ConcreteLibfunc}
    (hi : r.program.statements[i]? = some (.invoke inv)) (hlib : r.libfunc? inv.libfunc = some lib)
    (htake : store.take inv.args = some (values, rest)) :
    step r (.running i store callers) = invoke lib i inv.branches values rest callers := by
  simp [step, hi, hlib, htake]

theorem invoke_of_eval {lib : ConcreteLibfunc} {branches : List Branch} {branch : Branch} {b : Nat}
    {results : List Value} (hcall : ∀ callee, lib.operation ≠ .functionCall callee)
    (heval : lib.operation.eval values = some (b, results)) (hb : branches[b]? = some branch)
    (hbind : rest.bind branch.results results = some store) :
    invoke lib i branches values rest callers =
      some (.running (branch.target.resolve i).toNat store callers) := by
  unfold invoke
  split
  · rename_i callee hop
    exact absurd hop (hcall callee)
  · simp [heval, hb, hbind]

theorem invoke_of_call {lib : ConcreteLibfunc} {branches : List Branch} {branch : Branch}
    {callee : Function} (hcall : lib.operation = .functionCall callee)
    (hb : branches[0]? = some branch)
    (hbind : Store.empty.bind (callee.params.map (·.var)) values = some store) :
    invoke lib i branches values rest callers =
      some (.running callee.entry.toNat store
        (⟨(branch.target.resolve i).toNat, branch.results, rest⟩ :: callers)) := by
  simp [invoke, hcall, hb, hbind]

end steps

end SierraCasm.Sierra
