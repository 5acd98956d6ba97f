import SierraCasm.Ap.Analysis
import SierraCasm.Lowering.Code
import SierraCasm.Lowering.Value
import SierraCasm.Sizes

/-! # Lowering one invocation

`lowerInvocation` gives the code of an invocation and the values that each of its branches binds.
Most libfuncs emit no code: they only rename or combine expressions. -/

namespace SierraCasm.Lowering

open Sierra Concrete Casm

/-- The code of a statement and the values that each branch binds. -/
structure Lowered where
  code : List Code := []
  outputs : List (List Ref)
deriving DecidableEq, Repr

/-- What lowering reads: the validated program and the positions of `ap` in it. -/
structure Context where
  registry : Registry
  metadata : Metadata

/-! ### Sizes -/

/-- The number of cells of a declared type. -/
def cellCount (r : Registry) (type : Ident) : Except Defect Nat :=
  match r.size? type with
  | some n => if 0 ≤ n then .ok n.toNatClampNeg else .error .unallocatable
  | none => .error .malformed

/-- Types with their numbers of cells. -/
def withSizes (r : Registry) (types : List Ident) : Except Defect (List (Ident × Nat)) :=
  types.mapM fun type => do return (type, ← cellCount r type)

/-- The number of cells of some values together. -/
def totalCells (sized : List (Ident × Nat)) : Int64 := .ofNat (sized.foldr (·.2 + ·) 0)

/-- The most cells that a list of them can have.  An allocation is refused, whatever memory there
is, if it does not fit into a space of 48-bit addresses, and the expression of a cell takes 96
bytes.  There is room for a list as long as one that is there. -/
def maxCells : Nat := Nat.pow 2 48 / 96

/-- Makes room for a list of cells. -/
def reserve (n : Nat) : Except Defect Unit := require (n ≤ maxCells) .unallocatable

/-- Makes room for the cells of each of some values. -/
def reserveAll (sized : List (Ident × Nat)) : Except Defect Unit :=
  checkAll (fun x => reserve x.2) sized

/-! ### The stack -/

/-- The first of some cells that is not the stack cell at its position, counted from `k`. -/
def firstMisplaced (s : ApState) : Int64 → Nat → List Expr → Option Nat
  | _, _, [] => none
  | position, k, e :: es =>
    if e = .deref (.ap s.epoch position) then firstMisplaced s (position + 1) (k + 1) es
    else some k

/-- Values lie in the cells right below `ap`, in order. -/
def checkOnTop (s : ApState) (values : Stacked) (refs : List Ref) : Except Defect Unit := do
  let cells := cellsOf refs
  reserve cells.length
  match firstMisplaced s (s.offset - .ofNat cells.length) 0 cells with
  | some k => .error (.notOnTop values k)
  | none => .ok ()

/-- A value that was just pushed at a position. -/
def pushed (s : ApState) : Expr := .deref (.ap s.epoch s.offset)

/-- Values that were just pushed from a position on. -/
def pushedAll (s : ApState) (n : Nat) : List Expr :=
  (List.range n).map fun k => .deref (.ap s.epoch (s.offset + .ofNat k))

/-! ### Libfuncs -/

/-- One branch that binds values with the given cells. -/
def Lowered.single (sig : Signature) (cells : List (List Expr)) (code : List Code := []) :
    Lowered :=
  { code := code, outputs := [List.zipWith Ref.mk (sig.outputs 0) cells] }

/-- The statement that branch `b` of an invocation at `i` leads to. -/
def branchTarget (inv : Invocation) (i b : Nat) : Except Defect Nat :=
  match inv.branches[b]? with
  | some branch => .ok (branch.target.resolve i).toNat
  | none => .error .malformed

/-- Names the libfunc that needs a value which cannot be used. -/
def needing {α : Type} (libfunc : String) (value : Except ValueDefect α) : Except Defect α :=
  value.mapError (.value libfunc)

/-- A value goes to the top of the stack. -/
def lowerStoreTemp (s : ApState) (sig : Signature) (cells : List Expr) :
    Except Defect Lowered := do
  let code ← needing "store_temp" (storeAll s cells)
  return .single sig [pushedAll s cells.length] (code.map Code.plain)

/-- A value that is not zero takes the second branch, as a nonzero value. -/
def lowerIsZero (i : Nat) (s : ApState) (sig : Signature) (inv : Invocation) (e : Expr) :
    Except Defect Lowered := do
  let condition ← needing "felt252_is_zero" (stored e s)
  let target ← branchTarget inv i 1
  return { code := [.jumpNonZero target condition]
           outputs := [[], List.zipWith Ref.mk (sig.outputs 1) [[e]]] }

/-- Arguments are taken from the top of the stack, and results are left there. -/
def lowerCall (ctx : Context) (i : Nat) (s : ApState) (sig : Signature) (callee : Function)
    (args : List Ref) : Except Defect Lowered := do
  checkOnTop s .callArguments args
  let sized ← withSizes ctx.registry (sig.outputs 0)
  reserveAll sized
  match ctx.metadata.branchState? i 0 with
  | none => .error .malformed
  | some after =>
    return { code := [.call callee.entry.toNat]
             outputs := [place (.ap after.epoch) (after.offset - totalCells sized) sized] }

/-- The words from the test of the counter to what follows the jump behind it. -/
def skipJump : Int := 4

/-- The counter is copied to the top of the stack; if it is not zero, the jump to the second
branch is skipped. -/
def lowerWithdrawGas (i : Nat) (s : ApState) (inv : Invocation) (rangeCheck gas : Ref)
    (counter : Expr) : Except Defect Lowered := do
  let cell ← needing "withdraw_gas" (stored counter s)
  let target ← branchTarget inv i 1
  let results := [rangeCheck, ⟨gas.type, [pushed s]⟩]
  return { code :=
             [.plain (push top (.deref cell)),
              .plain { body := .jumpNonZero (.immediate skipJump) ⟨.ap, -1⟩ },
              .jump target]
           outputs := [results, results] }

/-- Cuts cells into values of the given types and sizes. -/
def split : List Expr → List (Ident × Nat) → Except Defect (List Ref)
  | _, [] => .ok []
  | cells, (type, n) :: rest =>
    if n ≤ cells.length then do
      let refs ← split (cells.drop n) rest
      return ⟨type, cells.take n⟩ :: refs
    else
      .error .malformed

/-- Values become the members of a struct. -/
def lowerConstruct (sig : Signature) (args : List Ref) : Except Defect Lowered := do
  let cells := cellsOf args
  reserve cells.length
  return .single sig [cells]

def lowerDeconstruct (r : Registry) (sig : Signature) (cells : List Expr) :
    Except Defect Lowered := do
  let sized ← withSizes r (sig.outputs 0)
  return { outputs := [← split cells sized] }

/-- The contents of a box are read through the address in its cell. -/
def lowerUnbox (r : Registry) (s : ApState) (sig : Signature) (contents : Ident) (e : Expr) :
    Except Defect Lowered := do
  let _ ← needing "unbox" (stored e s)
  let size ← cellCount r contents
  reserve size
  match e with
  | .deref c =>
    return .single sig [(List.range size).map fun k => .doubleDeref c (.ofNat k)]
  | _ => .error .malformed

/-- The code of an invocation at statement `i`, which runs at position `s` with the given argument
values, and the values that its branches bind. -/
def lowerInvocation (ctx : Context) (i : Nat) (s : ApState) (lib : ConcreteLibfunc)
    (inv : Invocation) (args : List Ref) : Except Defect Lowered :=
  let sig := lib.signature
  match lib.operation, args with
  | .felt252Const v, [] => .ok (.single sig [[.immediate v]])
  | .uintConst v, [] => .ok (.single sig [[.immediate v]])
  | .constAsImmediate v, [] => .ok (.single sig [[.immediate v]])
  | .felt252Binary op, [⟨_, [a]⟩, ⟨_, [b]⟩] => do
    let e ← (arithmetic op a b).mapError .operand
    return .single sig [[e]]
  | .storeTemp, [a] => lowerStoreTemp s sig a.cells
  | .rename, [a] => .ok (.single sig [a.cells])
  | .uintToFelt252, [a] => .ok (.single sig [a.cells])
  | .unwrapNonZero, [a] => .ok (.single sig [a.cells])
  | .dup, [a] => .ok (.single sig [a.cells, a.cells])
  | .drop, [_] => .ok { outputs := [[]] }
  | .branchAlign, [] => .ok { outputs := [[]] }
  | .disableApTracking, [] => .ok { outputs := [[]] }
  | .enableApTracking, [] => .ok { outputs := [[]] }
  | .jump, [] => do return { code := [.jump (← branchTarget inv i 0)], outputs := [[]] }
  | .felt252IsZero, [⟨_, [e]⟩] => lowerIsZero i s sig inv e
  | .functionCall callee, args => lowerCall ctx i s sig callee args
  | .withdrawGas, [rangeCheck, ⟨gas, [e]⟩] =>
    lowerWithdrawGas i s inv rangeCheck ⟨gas, [e]⟩ e
  | .structConstruct, args => lowerConstruct sig args
  | .structDeconstruct, [a] => lowerDeconstruct ctx.registry sig a.cells
  | .unbox contents, [⟨_, [e]⟩] => lowerUnbox ctx.registry s sig contents e
  | .constAsBox v segment, [] => .ok (.single sig [[pushed s]] [.constAddress segment v])
  | _, _ => .error .malformed

end SierraCasm.Lowering
