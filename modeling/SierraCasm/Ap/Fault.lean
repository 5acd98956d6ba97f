import SierraCasm.Sierra.Render

/-! # Why the positions of `ap` cannot be computed -/

namespace SierraCasm.Ap

open Sierra

/-- What stops the analysis of a program. -/
inductive Fault where
  /-- two functions share a statement -/
  | shared (statement : Nat) (first second : Ident)
  /-- two tracked paths reach a statement at different positions -/
  | mismatch (statement : Nat)
  /-- control leaves the program after its last statement -/
  | pastEnd (statement : Nat)
  /-- an invocation does not match its libfunc; no validated program has one -/
  | malformed (statement : Nat)
  /-- the bound on the number of visits is used up; no validated program reaches it -/
  | exhausted (statement : Nat)
deriving DecidableEq, Repr

namespace Fault

def statement : Fault → Nat
  | .shared i _ _ => i
  | .mismatch i => i
  | .pastEnd i => i
  | .malformed i => i
  | .exhausted i => i

def message : Fault → String
  | .shared i f g =>
    "statement " ++ renderIndex i ++ " is reachable from both " ++ f.render ++ " and " ++ g.render
  | .mismatch i => "ap change mismatch at statement " ++ renderIndex i
  | .pastEnd i => "statement " ++ renderIndex i ++ " falls through past the end of the program"
  | .malformed i => "statement " ++ renderIndex i ++ " does not match its libfunc"
  | .exhausted i => "statement " ++ renderIndex i ++ " is visited too often"

end Fault

end SierraCasm.Ap
