/-! # CASM instructions

The target language: instructions over memory cells addressed relative to the registers `ap` and
`fp`.  An instruction occupies one word, and one more when it carries an immediate
(`Instruction.size`).  `Instruction.render` is its assembly text. -/

namespace SierraCasm.Casm

inductive Register where
  | ap
  | fp
deriving DecidableEq, Repr

/-- A memory cell, relative to a register. -/
structure CellRef where
  register : Register
  offset : Int64
deriving DecidableEq, Repr

inductive Arith where
  | add
  | mul
deriving DecidableEq, Repr

/-- A cell or an immediate: the second operand of an arithmetic result, and the target of a
relative jump or call. -/
inductive Operand where
  | deref (cell : CellRef)
  | immediate (value : Int)
deriving DecidableEq, Repr

/-- The right-hand side of an equation. -/
inductive Res where
  | deref (cell : CellRef)
  | doubleDeref (cell : CellRef) (offset : Int64)
  | immediate (value : Int)
  | binary (op : Arith) (left : CellRef) (right : Operand)
deriving DecidableEq, Repr

/-- What an instruction does, `ap++` apart. -/
inductive Body where
  | assertEq (dst : CellRef) (res : Res)
  | jump (target : Operand)
  | jumpNonZero (target : Operand) (condition : CellRef)
  | call (target : Operand)
  | ret
deriving DecidableEq, Repr

/-- One instruction; `incAp` advances `ap` by one after it. -/
structure Instruction where
  body : Body
  incAp : Bool := false
deriving DecidableEq, Repr

/-! ### Sizes -/

/-- A target or operand takes a word of its own when it is an immediate. -/
def Operand.words : Operand → Nat
  | .deref _ => 0
  | .immediate _ => 1

/-- The extra words of a right-hand side. -/
def Res.words : Res → Nat
  | .deref _ => 0
  | .doubleDeref _ _ => 0
  | .immediate _ => 1
  | .binary _ _ right => right.words

/-- The extra words of an instruction body. -/
def Body.words : Body → Nat
  | .assertEq _ res => res.words
  | .jump target => target.words
  | .jumpNonZero target _ => target.words
  | .call target => target.words
  | .ret => 0

/-- The encoded size of an instruction in words. -/
def Instruction.size (i : Instruction) : Nat := 1 + i.body.words

theorem Instruction.size_pos (i : Instruction) : 0 < i.size := by
  simp only [Instruction.size]
  omega

/-! ### Assembly text -/

def Register.render : Register → String
  | .ap => "ap"
  | .fp => "fp"

/-- A cell, as in `[ap + -1]`. -/
def CellRef.render (c : CellRef) : String :=
  "[" ++ c.register.render ++ " + " ++ toString c.offset.toInt ++ "]"

def Arith.render : Arith → String
  | .add => "+"
  | .mul => "*"

/-- A cell, or the decimal immediate. -/
def Operand.render : Operand → String
  | .deref c => c.render
  | .immediate v => toString v

/-- A right-hand side; the cell that a cell points to is written `[[fp + -3] + 2]`. -/
def Res.render : Res → String
  | .deref c => c.render
  | .doubleDeref c k => "[" ++ c.render ++ " + " ++ toString k.toInt ++ "]"
  | .immediate v => toString v
  | .binary op a b => a.render ++ " " ++ op.render ++ " " ++ b.render

/-- An instruction without its `ap++`. -/
def Body.render : Body → String
  | .assertEq dst res => dst.render ++ " = " ++ res.render
  | .jump t => "jmp rel " ++ t.render
  | .jumpNonZero t c => "jmp rel " ++ t.render ++ " if " ++ c.render ++ " != 0"
  | .call t => "call rel " ++ t.render
  | .ret => "ret"

def Instruction.render (i : Instruction) : String :=
  i.body.render ++ (if i.incAp then ", ap++" else "")

end SierraCasm.Casm
