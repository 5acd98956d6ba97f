import SierraCasm.Sierra.Program

/-! # The text form of Sierra

One line per declaration, statement and function:

```text
type felt252 = felt252;

libfunc felt252_add = felt252_add;

felt252_add([0], [1]) -> ([2]);
felt252_is_zero([0]) { fallthrough() 5([1]) };
return([2]);

main@0([0]: felt252, [1]: felt252) -> (felt252);
```
-/

namespace SierraCasm.Sierra

/-- Texts separated by a comma and a blank. -/
def commaSeparated (xs : List String) : String := ", ".intercalate xs

/-- A generic argument; the kinds other than types and values are marked. -/
def GenericArg.render : GenericArg → String
  | .type id => id.render
  | .userType id => "ut@" ++ id.render
  | .value v => toString v
  | .libfunc id => "lib@" ++ id.render
  | .userFunc id => "user@" ++ id.render
  | .blank n => if n = valueNumber then "<nil>" else "?"

/-- A long id, `generic<arg, ...>`, or the generic name alone if it has no arguments. -/
def LongId.render (l : LongId) : String :=
  if l.args.isEmpty then l.generic
  else l.generic ++ "<" ++ commaSeparated (l.args.map (·.render)) ++ ">"

/-- Variables in brackets, separated by commas. -/
def renderVars (vars : List VarId) : String := commaSeparated (vars.map (·.render))

def Target.render : Target → String
  | .fallthrough => "fallthrough"
  | .statement i => toString i

def Branch.render (b : Branch) : String := b.target.render ++ "(" ++ renderVars b.results ++ ")"

/-- An invocation; a single branch that falls through is written with an arrow. -/
def Invocation.render (i : Invocation) : String :=
  let head := i.libfunc.render ++ "(" ++ renderVars i.args ++ ")"
  match i.branches with
  | [⟨.fallthrough, results⟩] => head ++ " -> (" ++ renderVars results ++ ");"
  | branches => head ++ " \x7b " ++ " ".intercalate (branches.map (·.render)) ++ " \x7d;"

def Statement.render : Statement → String
  | .invoke i => i.render
  | .ret vars => "return(" ++ renderVars vars ++ ");"

def Param.render (p : Param) : String := p.var.render ++ ": " ++ p.type.render

/-- A function: name, entry, parameters and return types. -/
def Function.render (f : Function) : String :=
  f.id.render ++ "@" ++ toString f.entry ++ "(" ++ commaSeparated (f.params.map (·.render)) ++
    ") -> (" ++ commaSeparated (f.retTypes.map (·.render)) ++ ");"

/-- A declaration without its keyword. -/
def Declaration.render (d : Declaration) : String := d.id.render ++ " = " ++ d.longId.render

/-- The program: types, libfuncs, statements and functions, with an empty line between the
groups. -/
def Program.render (p : Program) : String :=
  String.join (p.types.map fun d => "type " ++ d.render ++ ";\n") ++ "\n" ++
    String.join (p.libfuncs.map fun d => "libfunc " ++ d.render ++ ";\n") ++ "\n" ++
    String.join (p.statements.map fun s => s.render ++ "\n") ++ "\n" ++
    String.join (p.functions.map fun f => f.render ++ "\n")

end SierraCasm.Sierra
