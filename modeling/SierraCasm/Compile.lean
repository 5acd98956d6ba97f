import SierraCasm.Gas.Check
import SierraCasm.Lowering.Statement

/-! # Compilation

`compile` turns a validated program and the positions of `ap` in it into CASM: the gas check if
it is asked for, lowering, assembly, and last the limit on the size of the result. -/

namespace SierraCasm

/-- What to check besides what code generation needs: gas usage, and the size of the result unless
`maxSize` is not positive. -/
structure CompileConfig where
  gasCheck : Bool := false
  maxSize : Int := 0
deriving DecidableEq, Repr

/-- Why a validated program does not compile. -/
inductive CompileFault where
  | gas (fault : GasFault)
  | lowering (fault : Lowering.Fault)
  | tooLarge (size : Nat) (limit : Int)
deriving DecidableEq, Repr

/-- Compiles a validated program. -/
def compile (r : Registry) (m : Metadata) (config : CompileConfig) :
    Except CompileFault Casm.Program := do
  if config.gasCheck then (checkGasUsage r m).mapError .gas
  let lowered ← (Lowering.lowerProgram ⟨r, m⟩).mapError .lowering
  let program := Lowering.assemble lowered.blocks
  if 0 < config.maxSize ∧ config.maxSize < program.bytecodeSize then
    .error (.tooLarge program.bytecodeSize config.maxSize)
  else
    return program

end SierraCasm
