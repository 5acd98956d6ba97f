import SierraCasm.Concrete.Libfunc

/-! # Positions of the allocation pointer

The position of `ap` at a statement is an offset from the start of an epoch.  A new epoch starts
where `ap` moves by an amount that is not known; epoch `0` starts at function entry.  Offsets wrap
at 64 bits. -/

namespace SierraCasm

/-- How far a function moves `ap` in total. -/
inductive ApChange where
  | known (cells : Int64)
  | unknown
deriving DecidableEq, Repr

def ApChange.render : ApChange → String
  | .known n => "Known(" ++ toString n.toInt ++ ")"
  | .unknown => "Unknown"

/-- The position of `ap` at a statement; while `tracking` holds, all paths to a statement must
agree on it. -/
structure ApState where
  epoch : Nat := 0
  offset : Int64 := 0
  tracking : Bool := false
deriving DecidableEq, Repr

namespace ApState

def entry : ApState := { tracking := true }

/-- The epoch that statement `i` opens for what follows it. -/
def epochAfter (i : Nat) : Nat := 2 * (i + 1) + 1

/-- The epoch that opens at statement `i` where paths with different positions join. -/
def epochAtJoin (i : Nat) : Nat := 2 * (i + 1)

/-- The position one path further within an epoch. -/
def move (s : ApState) (cells : Int64) : ApState := { s with offset := s.offset + cells }

/-- The words that a call pushes: the caller's `fp` and the return address. -/
def callFrame : Int64 := 2

/-- The position after a call at statement `i` to a function with a given change. -/
def afterCall (s : ApState) (i : Nat) : ApChange → ApState
  | .known n => s.move (n + callFrame)
  | .unknown => { epoch := epochAfter i, tracking := s.tracking }

/-- The position at statement `i` where the paths at `s` and at `t` join in a fresh epoch. -/
def join (i : Nat) (s t : ApState) : ApState :=
  { epoch := epochAtJoin i, tracking := s.tracking && t.tracking }

end ApState

end SierraCasm
