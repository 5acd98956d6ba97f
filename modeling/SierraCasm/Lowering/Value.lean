import SierraCasm.Lowering.Fault

/-! # Using values

How expressions become operands: a value that must be in memory (`stored`), a value that is
written to the top of the stack (`store`), and deferred arithmetic (`arithmetic`). -/

namespace SierraCasm.Lowering

open Concrete Casm

/-- The cell at the top of the stack. -/
def top : CellRef := ⟨.ap, 0⟩

def address (c : Cell) (s : ApState) : Except ValueDefect CellRef :=
  match c.at? s with
  | some ref => .ok ref
  | none => .error .lost

/-- The operand of a value that must be in memory. -/
def stored (e : Expr) (s : ApState) : Except ValueDefect CellRef :=
  match e with
  | .lost => .error .lost
  | .deref c => address c s
  | _ => .error .notStored

/-- The second operand of an instruction. -/
def rightOperand (o : Operand) (s : ApState) : Except ValueDefect Casm.Operand :=
  match o with
  | .immediate v => .ok (.immediate v)
  | .cell c => return .deref (← address c s)

/-- An equation that fixes the top of the stack and then moves `ap`. -/
def push (dst : CellRef) (res : Res) : Instruction :=
  { body := .assertEq dst res, incAp := true }

/-- Writes a value to the top of the stack.  A difference `a - b` is written as `a = [ap + 0] + b`,
which determines the top of the stack since sums can be inverted. -/
def store (e : Expr) (s : ApState) : Except ValueDefect Instruction :=
  match e with
  | .lost => .error .lost
  | .immediate v => .ok (push top (.immediate v))
  | .deref c => return push top (.deref (← address c s))
  | .doubleDeref c offset => return push top (.doubleDeref (← address c s) offset)
  | .binary op a b => do
    let left ← address a s
    let right ← rightOperand b s
    return match op with
      | .add => push top (.binary .add left right)
      | .sub => push left (.binary .add top right)
      | .mul => push top (.binary .mul left right)

/-- Writes values to the top of the stack, one after the other. -/
def storeAll (s : ApState) : List Expr → Except ValueDefect (List Instruction)
  | [] => .ok []
  | e :: es => do
    let instruction ← store e s
    let rest ← storeAll (s.move 1) es
    return instruction :: rest

/-! ### Arithmetic -/

/-- The operation with the left operand in memory; subtracting a constant adds its negative. -/
def arithmeticOn (op : BinaryOp) (a b : Expr) : Except ValueDefect Expr :=
  match a, b with
  | .deref left, .deref right => .ok (.binary op left (.cell right))
  | .deref left, .immediate v =>
    match op with
    | .sub => .ok (.binary .add left (.immediate (-Felt.ofInt v).signed))
    | _ => .ok (.binary op left (.immediate v))
  | .deref _, _ => .error .rightNotUsable
  | _, _ => .error .leftNotStored

/-- The deferred value of an operation.  Constants are computed at once; a constant on the left of
a commutative operation changes places with the right operand. -/
def arithmetic (op : BinaryOp) (a b : Expr) : Except ValueDefect Expr :=
  match a, b with
  | .lost, _ => .error .lost
  | _, .lost => .error .lost
  | .immediate x, .immediate y =>
    .ok (.immediate (op.apply (Felt.ofInt x) (Felt.ofInt y)).signed)
  | .immediate x, b => if op = .sub then .error .leftNotStored else arithmeticOn op b (.immediate x)
  | a, b => arithmeticOn op a b

end SierraCasm.Lowering
