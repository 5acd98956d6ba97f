import SierraCasm.Sierra.Key

/-! # Programs without debug names

A debug name is only for reading.  `unnamed` clears all debug names of an identifier, of a long id
and of a whole program; two programs are equal up to debug names when they are equal without
them. -/

namespace SierraCasm.Sierra

/-! ### Identifiers -/

/-- The identifier without its debug name. -/
def Ident.unnamed (i : Ident) : Ident := { id := i.id }

namespace Ident

@[simp] theorem id_unnamed (i : Ident) : i.unnamed.id = i.id := rfl

@[simp] theorem unnamed_eq_iff (a b : Ident) : a.unnamed = b.unnamed ↔ a.id = b.id := by
  simp [unnamed]

end Ident

/-! ### Long ids -/

def GenericArg.unnamed : GenericArg → GenericArg
  | .type id => .type id.unnamed
  | .userType id => .userType id.unnamed
  | .value v => .value v
  | .libfunc id => .libfunc id.unnamed
  | .userFunc id => .userFunc id.unnamed
  | .blank n => .blank n

def LongId.unnamed (l : LongId) : LongId :=
  { generic := l.generic, args := l.args.map (·.unnamed) }

@[simp] theorem GenericArg.kind_unnamed (a : GenericArg) : a.unnamed.kind = a.kind := by
  cases a <;> rfl

@[simp] theorem GenericArg.key_unnamed (a : GenericArg) : a.unnamed.key = a.key := by
  cases a <;> rfl

@[simp] theorem LongId.key_unnamed (l : LongId) : l.unnamed.key = l.key := by
  simp [LongId.key, LongId.unnamed, Function.comp_def]

/-! ### Programs -/

def Declaration.unnamed (d : Declaration) : Declaration :=
  { id := d.id.unnamed, longId := d.longId.unnamed }

def Statement.unnamed : Statement → Statement
  | .invoke inv => .invoke { inv with libfunc := inv.libfunc.unnamed }
  | .ret vars => .ret vars

def Param.unnamed (p : Param) : Param := { p with type := p.type.unnamed }

def Function.unnamed (f : Function) : Function where
  id := f.id.unnamed
  paramTypes := f.paramTypes.map (·.unnamed)
  retTypes := f.retTypes.map (·.unnamed)
  params := f.params.map (·.unnamed)
  entry := f.entry

/-- The program without debug names. -/
def Program.unnamed (p : Program) : Program where
  types := p.types.map (·.unnamed)
  libfuncs := p.libfuncs.map (·.unnamed)
  statements := p.statements.map (·.unnamed)
  functions := p.functions.map (·.unnamed)

end SierraCasm.Sierra
