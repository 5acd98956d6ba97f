import SierraCasm.Casm.Program

/-! # Code with symbolic addresses

Lowering emits instructions that refer to statements and to constants by name.  `assemble` lays
the blocks of all statements out one after the other, the constants after them, and replaces each
name by the address it stands for. -/

namespace SierraCasm.Lowering

open Casm

/-- An instruction whose address operand may still be a name. -/
inductive Code where
  | plain (instruction : Instruction)
  | jump (target : Nat)
  | jumpNonZero (target : Nat) (condition : CellRef)
  | call (target : Nat)
  /-- pushes the address of a constant of a segment -/
  | constAddress (segment : Nat) (value : Int)
deriving DecidableEq, Repr

/-- The size in words; an address takes one word besides the instruction's own. -/
def Code.size : Code → Nat
  | .plain i => i.size
  | .jump _ => 2
  | .jumpNonZero _ _ => 2
  | .call _ => 2
  | .constAddress _ _ => 2

def blockSize (block : List Code) : Nat := block.foldr (·.size + ·) 0

theorem blockSize_cons (c : Code) (block : List Code) :
    blockSize (c :: block) = c.size + blockSize block :=
  rfl

theorem blockSize_append (a b : List Code) : blockSize (a ++ b) = blockSize a + blockSize b := by
  induction a with
  | nil => exact (Nat.zero_add _).symm
  | cons c rest ih => rw [List.cons_append, blockSize_cons, blockSize_cons, ih, Nat.add_assoc]

/-! ### Constants -/

/-- The constants of each segment, each once, in order of their first use; segments ascend. -/
abbrev Pool := List (Nat × List Int)

namespace Pool

/-- Adds a value to a list unless it is there. -/
def addValue (values : List Int) (v : Int) : List Int :=
  if v ∈ values then values else values ++ [v]

def add (segment : Nat) (v : Int) : Pool → Pool
  | [] => [(segment, [v])]
  | (i, values) :: rest =>
    if segment < i then (segment, [v]) :: (i, values) :: rest
    else if segment = i then (i, addValue values v) :: rest
    else (i, values) :: add segment v rest

/-- Adds the constant whose address an instruction takes. -/
def addFrom (pool : Pool) : Code → Pool
  | .constAddress segment v => pool.add segment v
  | _ => pool

/-- The constants whose addresses some code takes. -/
def ofCode (code : List Code) : Pool := code.foldl addFrom []

/-- The segments from an address on. -/
def segments : Nat → Pool → List ConstSegment
  | _, [] => []
  | offset, (i, values) :: rest =>
    ⟨i, offset, values⟩ :: segments (offset + values.length) rest

def address (segment : Nat) (v : Int) : List ConstSegment → Int
  | [] => 0
  | s :: rest => if s.index = segment then s.offset + s.values.idxOf v else address segment v rest

end Pool

/-! ### Addresses -/

/-- The addresses at which consecutive blocks start. -/
def starts : Nat → List (List Code) → List Nat
  | _, [] => []
  | offset, block :: rest => offset :: starts (offset + blockSize block) rest

/-- Where statements and constants are. -/
structure Layout where
  statements : List Nat
  codeSize : Nat
  segments : List ConstSegment
deriving DecidableEq, Repr

namespace Layout

/-- The layout of the blocks of all statements. -/
def ofBlocks (blocks : List (List Code)) : Layout :=
  let codeSize := blockSize blocks.flatten
  { statements := starts 0 blocks
    codeSize := codeSize
    segments := Pool.segments codeSize (Pool.ofCode blocks.flatten) }

/-- The address of a statement; the end of the program is the end of the code. -/
def statementAddress (l : Layout) (i : Nat) : Nat := l.statements[i]?.getD l.codeSize

/-- The distance from an address to a statement. -/
def distance (l : Layout) (pc i : Nat) : Casm.Operand :=
  .immediate ((l.statementAddress i : Int) - pc)

/-- The instruction at an address. -/
def resolve (l : Layout) (pc : Nat) : Code → Instruction
  | .plain i => i
  | .jump t => { body := .jump (l.distance pc t) }
  | .jumpNonZero t c => { body := .jumpNonZero (l.distance pc t) c }
  | .call t => { body := .call (l.distance pc t) }
  | .constAddress segment v =>
    { body := .assertEq ⟨.ap, 0⟩ (.immediate (Pool.address segment v l.segments)), incAp := true }

/-- The instructions from an address on. -/
def resolveAll (l : Layout) : Nat → List Code → List Instruction
  | _, [] => []
  | pc, c :: rest => l.resolve pc c :: resolveAll l (pc + c.size) rest

/-- A name and the address that replaces it take the same space. -/
theorem size_resolve (l : Layout) (pc : Nat) (c : Code) : (l.resolve pc c).size = c.size := by
  cases c <;> rfl

theorem wordCount_resolveAll (l : Layout) (pc : Nat) (code : List Code) :
    wordCount (l.resolveAll pc code) = blockSize code := by
  induction code generalizing pc with
  | nil => rfl
  | cons c rest ih => rw [resolveAll, wordCount_cons, blockSize_cons, size_resolve, ih]

end Layout

/-- The program made of the blocks of all statements. -/
def assemble (blocks : List (List Code)) : Casm.Program :=
  let layout := Layout.ofBlocks blocks
  { instructions := layout.resolveAll 0 blocks.flatten, segments := layout.segments }

theorem codeSize_assemble (blocks : List (List Code)) :
    (assemble blocks).codeSize = blockSize blocks.flatten :=
  Layout.wordCount_resolveAll _ 0 blocks.flatten

end SierraCasm.Lowering
