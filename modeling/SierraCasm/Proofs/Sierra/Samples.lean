import SierraCasm.Sierra.Program

/-! # Sample programs

Programs written by numbers, without debug names. -/

namespace SierraCasm

open Sierra

/-- A declaration without a debug name. -/
def Sierra.Declaration.numbered (id : UInt64) (generic : String) (args : List GenericArg := []) :
    Declaration :=
  { id := { id := id }, longId := { generic := generic, args := args } }

/-- An invocation by numbers; a branch is given by its target and the variables it binds. -/
def Sierra.Statement.numbered (libfunc : UInt64) (args : List UInt64)
    (branches : List (Target × List UInt64)) : Statement :=
  .invoke
    { libfunc := { id := libfunc }
      args := args.map VarId.mk
      branches := branches.map fun b => { target := b.1, results := b.2.map VarId.mk } }

/-- A function by numbers; its parameters are the variables from `0` on. -/
def Sierra.Function.numbered (id : UInt64) (params rets : List UInt64) (entry : Int) :
    Function where
  id := { id := id }
  paramTypes := params.map fun ty => { id := ty }
  retTypes := rets.map fun ty => { id := ty }
  params := params.zipIdx.map fun x => { var := ⟨.ofNat x.2⟩, type := { id := x.1 } }
  entry := entry

/-- Function `0` hands its builtins on, to itself too when gas runs out, through function `1`,
which only stores them. -/
def relay : Program where
  types := [.numbered 0 "RangeCheck", .numbered 1 "GasBuiltin"]
  libfuncs :=
    [.numbered 0 "withdraw_gas", .numbered 1 "store_temp" [.type { id := 0 }],
     .numbered 2 "store_temp" [.type { id := 1 }],
     .numbered 3 "function_call" [.userFunc { id := 0 }],
     .numbered 4 "function_call" [.userFunc { id := 1 }]]
  statements :=
    [.numbered 0 [0, 1] [(.fallthrough, [0, 1]), (.statement 4, [0, 1])],
     .numbered 1 [0] [(.fallthrough, [0])],
     .numbered 2 [1] [(.fallthrough, [1])],
     .ret [⟨0⟩, ⟨1⟩],
     .numbered 1 [0] [(.fallthrough, [0])],
     .numbered 2 [1] [(.fallthrough, [1])],
     .numbered 4 [0, 1] [(.fallthrough, [0, 1])],
     .numbered 3 [0, 1] [(.fallthrough, [0, 1])],
     .ret [⟨0⟩, ⟨1⟩],
     .numbered 1 [0] [(.fallthrough, [0])],
     .numbered 2 [1] [(.fallthrough, [1])],
     .ret [⟨0⟩, ⟨1⟩]]
  functions := [.numbered 0 [0, 1] [0, 1] 0, .numbered 1 [0, 1] [0, 1] 9]

/-- The types from `10` on are structs, each of eight of the one before. -/
def eightfold (depth : Nat) : List Declaration :=
  [.numbered 0 "felt252", .numbered 1 "NonZero" [.type { id := 0 }]] ++
  (List.range depth).map fun k =>
    .numbered (.ofNat (10 + k)) "Struct" (.userType { id := .ofNat k } ::
      List.replicate 8 (.type { id := if k = 0 then 0 else .ofNat (9 + k) }))

/-- The size `8 ^ 21` of the last struct wraps to `-2 ^ 63`.  The function stores such a struct on
one of its two paths. -/
def wrappedSizes : Program where
  types := eightfold 21
  libfuncs := [.numbered 0 "felt252_is_zero", .numbered 1 "store_temp" [.type { id := 30 }]]
  statements :=
    [.numbered 0 [0] [(.fallthrough, []), (.statement 3, [2])],
     .numbered 1 [1] [(.fallthrough, [1])],
     .ret [⟨1⟩],
     .ret [⟨1⟩]]
  functions := [.numbered 0 [0, 30] [30] 0]

end SierraCasm
