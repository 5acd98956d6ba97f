import SierraCasm.Ap.Analysis
import SierraCasm.Gas.Graph

/-! # Gas usage

A program may not run forever without paying.  `checkGasUsage` looks for a cycle in the control
flow, calls included, once the statements that withdraw gas are left out. -/

namespace SierraCasm

open Sierra Concrete

/-- A cycle of statements that withdraws no gas, and the function its lowest statement is in. -/
structure GasFault where
  function : Ident
  cycle : List Int
deriving DecidableEq, Repr

def GasFault.message (e : GasFault) : String :=
  "function " ++ e.function.render ++ " can loop without withdrawing gas (statements [" ++
    " ".intercalate (e.cycle.map renderIndex) ++ "])"

namespace Gas

/-- The libfunc that a statement invokes. -/
def libfuncAt? (r : Registry) (i : Nat) : Option ConcreteLibfunc :=
  match r.program.statements[i]? with
  | some (.invoke inv) => r.libfunc? inv.libfunc
  | _ => none

/-- A statement withdraws gas. -/
def withdraws (r : Registry) (i : Nat) : Bool :=
  (libfuncAt? r i).any fun lib => lib.operation == .withdrawGas

/-- Where control can go from a statement: into a callee, or along a branch. -/
def targets (r : Registry) (i : Nat) : List Int :=
  match r.program.statements[i]? with
  | some (.invoke inv) =>
    let entries := match (r.libfunc? inv.libfunc).map (·.operation) with
      | some (.functionCall callee) => [callee.entry]
      | _ => []
    entries ++ inv.branches.map fun b => b.target.resolve i
  | _ => []

/-- A statement of the program that does not withdraw gas. -/
def free (r : Registry) (i : Nat) : Bool :=
  i < r.program.statements.length && !withdraws r i

/-- The control flow between the reached statements that do not withdraw gas. -/
def flowGraph (r : Registry) (m : Metadata) : Graph Nat where
  nodes := (List.range r.program.statements.length).filter fun i =>
    (m.site? i).isSome && free r i
  succ i := ((targets r i).map Int.toNat).filter (free r)

end Gas

/-- Refuses a program that can loop without withdrawing gas. -/
def checkGasUsage (r : Registry) (m : Metadata) : Except GasFault Unit :=
  match (Gas.flowGraph r m).lowestCycle with
  | none => .ok ()
  | some cycle =>
    let owner := cycle.head?.bind m.owner?
    .error ⟨Ap.functionId r.program (owner.getD 0), cycle.map Int.ofNat⟩

end SierraCasm
