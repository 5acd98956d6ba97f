import SierraCasm.Casm.Instruction

/-! # CASM programs

A compiled program: its instructions, then the constant segments that follow the code.  Each
instruction and each constant is one line of assembly text, ended by `;` and a line break. -/

namespace SierraCasm.Casm

/-- A run of constants placed after the code; `offset` is the word address of its first value. -/
structure ConstSegment where
  index : Int
  offset : Int
  values : List Int
deriving DecidableEq, Repr

/-- A compiled program. -/
structure Program where
  instructions : List Instruction
  segments : List ConstSegment
deriving DecidableEq, Repr

/-- The size of some instructions in words. -/
def wordCount (code : List Instruction) : Nat := code.foldr (·.size + ·) 0

theorem wordCount_cons (i : Instruction) (code : List Instruction) :
    wordCount (i :: code) = i.size + wordCount code :=
  rfl

namespace Program

/-- All constants, in the order in which they are laid out. -/
def constants (p : Program) : List Int := p.segments.flatMap (·.values)

def codeSize (p : Program) : Nat := wordCount p.instructions

/-- The size of the code and its constants in words. -/
def bytecodeSize (p : Program) : Nat := p.codeSize + p.constants.length

/-- The assembly text: one line per instruction, then one `dw` line per constant. -/
def render (p : Program) : String :=
  String.join (p.instructions.map fun i => i.render ++ ";\n") ++
    String.join (p.constants.map fun v => "dw " ++ toString v ++ ";\n")

end Program

end SierraCasm.Casm
