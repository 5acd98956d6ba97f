import SierraCasm.Ap.State
import SierraCasm.Casm.Instruction

/-! # References

During lowering a variable is a type and one expression for each of its cells.  Arithmetic is
deferred until a value is stored, so an expression may be an operation on cells.  A cell on the
stack is kept as a position within its epoch, which stays right while `ap` moves by known amounts;
`Cell.at?` turns it into an operand of an instruction that runs at a given position. -/

namespace SierraCasm.Lowering

open Sierra Concrete

/-- A memory location. -/
inductive Cell where
  /-- a position within an epoch of `ap` -/
  | ap (epoch : Nat) (position : Int64)
  /-- an offset from `fp` -/
  | fp (offset : Int64)
deriving DecidableEq, Repr

namespace Cell

/-- The cell moves with `ap`. -/
def usesAp : Cell → Bool
  | .ap _ _ => true
  | .fp _ => false

/-- The cell as an operand at a position of `ap`, unless its epoch is over. -/
def at? (c : Cell) (s : ApState) : Option Casm.CellRef :=
  match c with
  | .fp offset => some ⟨.fp, offset⟩
  | .ap epoch position =>
    if epoch = s.epoch then some ⟨.ap, position - s.offset⟩ else none

end Cell

/-- The second operand of deferred arithmetic. -/
inductive Operand where
  | cell (c : Cell)
  | immediate (value : Int)
deriving DecidableEq, Repr

/-- The operand moves with `ap`. -/
def Operand.usesAp : Operand → Bool
  | .cell c => c.usesAp
  | .immediate _ => false

/-- The value of one cell of a variable. -/
inductive Expr where
  /-- the value in a cell -/
  | deref (c : Cell)
  /-- the value at an offset from the address in a cell -/
  | doubleDeref (c : Cell) (offset : Int64)
  /-- a value known now -/
  | immediate (value : Int)
  /-- arithmetic that is not done yet -/
  | binary (op : BinaryOp) (left : Cell) (right : Operand)
  /-- a value that can no longer be addressed -/
  | lost
deriving DecidableEq, Repr

namespace Expr

/-- The expression reads a cell that moves with `ap`. -/
def usesAp : Expr → Bool
  | .deref c => c.usesAp
  | .doubleDeref c _ => c.usesAp
  | .immediate _ => false
  | .binary _ a b => a.usesAp || b.usesAp
  | .lost => false

/-- The expression after the end of its epoch. -/
def invalidateAp (e : Expr) : Expr := if e.usesAp then .lost else e

end Expr

/-- The value of a variable. -/
structure Ref where
  type : Ident
  cells : List Expr
deriving DecidableEq, Repr

namespace Ref

/-- Two references agree when their cells do and their types have the same number. -/
def same (a b : Ref) : Bool := a.type.same b.type && a.cells == b.cells

/-- The reference after the end of its epoch. -/
def invalidateAp (r : Ref) : Ref := { r with cells := r.cells.map Expr.invalidateAp }

end Ref

/-- Values of the given types and sizes in consecutive cells, from a position on. -/
def place (cell : Int64 → Cell) : Int64 → List (Ident × Nat) → List Ref
  | _, [] => []
  | position, (type, size) :: rest =>
    ⟨type, (List.range size).map fun k => .deref (cell (position + .ofNat k))⟩ ::
      place cell (position + .ofNat size) rest

/-- All cells of some values, in order. -/
def cellsOf (refs : List Ref) : List Expr := refs.flatMap (·.cells)

end SierraCasm.Lowering
