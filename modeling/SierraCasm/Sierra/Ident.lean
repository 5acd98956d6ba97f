/-! # Identifiers

Types, libfuncs, functions and user types are all named by an `Ident`: a number, which alone
decides identity, and a debug name, which is only for reading.  Variables are named by a number
(`VarId`), statements by their index. -/

namespace SierraCasm.Sierra

/-- A number that decides identity, and a name kept for reading. -/
structure Ident where
  id : UInt64 := 0
  debugName : String := ""
deriving DecidableEq, Repr, Inhabited

namespace Ident

/-- The debug name if there is one, the number in brackets otherwise. -/
def render (i : Ident) : String :=
  if i.debugName = "" then "[" ++ toString i.id.toNat ++ "]" else i.debugName

/-- Two identifiers name the same thing when their numbers agree. -/
def same (a b : Ident) : Bool := a.id == b.id

@[simp] theorem same_iff (a b : Ident) : a.same b = true ↔ a.id = b.id := by simp [same]

end Ident

/-- A variable of a function body. -/
structure VarId where
  id : UInt64 := 0
deriving DecidableEq, Repr, Inhabited

/-- A variable is written as its number in brackets. -/
def VarId.render (v : VarId) : String := "[" ++ toString v.id.toNat ++ "]"

/-- A statement index is written `#n`. -/
def renderIndex (i : Int) : String := "#" ++ toString i

end SierraCasm.Sierra
