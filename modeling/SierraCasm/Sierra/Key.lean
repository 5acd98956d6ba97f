import SierraCasm.Sierra.Program

/-! # Keys of long ids

`LongId.key` writes a long id by numbers only, so that two declarations of the same generic name
with the same arguments share a key whatever their debug names are. -/

namespace SierraCasm.Sierra

/-- A generic argument by a letter for its kind and its number. -/
def GenericArg.key : GenericArg → String
  | .type id => "t" ++ toString id.id.toNat
  | .userType id => "ut" ++ toString id.id.toNat
  | .value v => "v" ++ toString v
  | .libfunc id => "l" ++ toString id.id.toNat
  | .userFunc id => "f" ++ toString id.id.toNat
  | .blank n => if n = valueNumber then "v<nil>" else ""

/-- The generic name with the keys of its arguments. -/
def LongId.key (l : LongId) : String :=
  l.generic ++ "<" ++ ",".intercalate (l.args.map (·.key)) ++ ">"

end SierraCasm.Sierra
