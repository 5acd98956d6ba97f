import SierraCasm.Registry.Basic

/-! # Type sizes

The sizes in memory cells of the declared types, as their registry records them.  Sums wrap at 64
bits, as sizes themselves do. -/

namespace SierraCasm

open Sierra

namespace Registry

/-- The size of a declared type. -/
def size? (r : Registry) (id : Ident) : Option Int64 := (r.type? id).map (·.info.size)

/-- The size of a declared type, or the type that is not declared. -/
def size (r : Registry) (id : Ident) : Except Ident Int64 :=
  match r.size? id with
  | some n => .ok n
  | none => .error id

/-- The sum of the sizes of some types, or the first that is not declared. -/
def totalSize (r : Registry) (ids : List Ident) : Except Ident Int64 :=
  ids.foldlM (fun total id => do return total + (← r.size id)) 0

end Registry

/-- The wording for a type that has no size. -/
def undeclaredType (id : Ident) : String := "type " ++ id.render ++ " is not declared"

end SierraCasm
