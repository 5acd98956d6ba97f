import SierraCasm.Lowering.Invocation

/-! # Lowering a program

Statements are lowered in order of their index.  Each starts from the environment that reaches it:
the parameters at the entry of a function, otherwise what the statements before it pass on along
their branches.  All paths to a statement must bring the same environment, so a backward jump must
meet one that is already there. -/

namespace SierraCasm.Lowering

open Sierra Concrete Casm

/-- The environment that reaches each statement, if one has. -/
abbrev EnvTable := List (Option Env)

def EnvTable.at? (t : EnvTable) (i : Nat) : Option Env := t[i]?.join

/-! ### Function entries -/

/-- Parameters lie below `fp`, the last one right under the saved `fp` and return address. -/
def entryEnv (r : Registry) (f : Function) : Except Defect Env := do
  let total := totalCells (← withSizes r f.paramTypes)
  let sized ← withSizes r (f.params.map (·.type))
  reserveAll sized
  let refs := place .fp (-total - ApState.callFrame) sized
  return (f.params.zip refs).foldl (fun e p => e.insert p.1.var p.2) {}

/-- Puts the environments of function entries into a table; a function without a body has no
entry. -/
def enterFunctions (r : Registry) : List Function → EnvTable → Except Fault EnvTable
  | [], table => .ok table
  | f :: fs, table =>
    let entry := f.entry.toNat
    if entry < table.length then
      match entryEnv r f with
      | .ok e => enterFunctions r fs (table.set entry (some e))
      | .error defect => .error ⟨entry, defect⟩
    else
      enterFunctions r fs table

/-! ### Arguments and results -/

/-- Takes arguments of the given types out of an environment. -/
def takeArgs : Env → List VarId → List Ident → Except Defect (List Ref × Env)
  | e, v :: vs, type :: types =>
    match e.find? v with
    | none => .error (.undefined v)
    | some r =>
      if r.type.same type then do
        let (refs, rest) ← takeArgs (e.erase v) vs types
        return (r :: refs, rest)
      else
        .error (.wrongType v r.type type)
  | e, [], [] => .ok ([], e)
  | _, _, _ => .error .malformed

def bindResults : Env → List VarId → List Ref → Except Defect Env
  | e, v :: vs, r :: rs =>
    if (e.find? v).isSome then .error (.overridden v) else bindResults (e.insert v r) vs rs
  | e, [], [] => .ok e
  | _, _, _ => .error .malformed

/-- Passes the environment of branch `b` of statement `i` on to its target. -/
def flow (m : Metadata) (i b : Nat) (rest : Env) (branch : Branch) (outputs : List Ref)
    (table : EnvTable) : Except Fault EnvTable := do
  let next ← (bindResults rest branch.results outputs).mapError (Fault.mk i)
  let target := (branch.target.resolve i).toNat
  match m.branchState? i b, m.state? target with
  | some after, some arrival =>
    let next := if after.epoch = arrival.epoch then next else next.invalidateAp
    match table.at? target with
    | some existing =>
      if existing.same next then .ok table else .error ⟨target, .inconsistent next.vars⟩
    | none =>
      if target ≤ i then .error ⟨target, .noReferences i⟩ else .ok (table.set target (some next))
  | _, _ => .error ⟨i, .malformed⟩

/-- Passes the environments of the branches of statement `i`, numbered from `b`, on. -/
def flowAll (m : Metadata) (i : Nat) (rest : Env) :
    Nat → List Branch → List (List Ref) → EnvTable → Except Fault EnvTable
  | b, branch :: branches, outputs :: more, table => do
    let table ← flow m i b rest branch outputs table
    flowAll m i rest (b + 1) branches more table
  | _, [], [], table => .ok table
  | _, _, _, _ => .error ⟨i, .malformed⟩

/-! ### Statements -/

/-- A return takes all live variables, which must be the results of the function on top of the
stack. -/
def lowerReturn (f : Function) (s : ApState) (e : Env) (vars : List VarId) :
    Except Defect (List Code) := do
  require (vars.length == f.retTypes.length)
    (Defect.returnCount f.id f.retTypes.length vars.length)
  let (values, rest) ← takeArgs e vars f.retTypes
  require rest.bindings.isEmpty (.stillAlive rest.vars)
  checkOnTop s .returnValues values
  return [.plain { body := .ret }]

/-- The code of statement `i`, and the environments that it passes on. -/
def lowerStatement (ctx : Context) (i : Nat) (statement : Statement) (table : EnvTable) :
    Except Fault (List Code × EnvTable) :=
  match ctx.metadata.site? i, table.at? i with
  | some site, some e =>
    match statement with
    | .ret vars =>
      match ctx.registry.program.functions[site.owner]? with
      | none => .error ⟨i, .malformed⟩
      | some f => do
        let code ← (lowerReturn f site.state e vars).mapError (Fault.mk i)
        return (code, table)
    | .invoke inv =>
      match ctx.registry.libfunc? inv.libfunc with
      | none => .error ⟨i, .malformed⟩
      | some lib => do
        let (args, rest) ← (takeArgs e inv.args lib.signature.params).mapError (Fault.mk i)
        let lowered ← (lowerInvocation ctx i site.state lib inv args).mapError (Fault.mk i)
        let table ← flowAll ctx.metadata i rest 0 inv.branches lowered.outputs table
        return (lowered.code, table)
  | _, _ => .error ⟨i, .unreachable⟩

/-- A program after lowering: the code of every statement, and the environment that reaches it. -/
structure LoweredProgram where
  blocks : List (List Code)
  envs : EnvTable
deriving DecidableEq, Repr

/-- Lowers the statements from index `i` on. -/
def lowerFrom (ctx : Context) : Nat → List Statement → EnvTable → Except Fault LoweredProgram
  | _, [], table => .ok ⟨[], table⟩
  | i, statement :: rest, table => do
    let (block, table) ← lowerStatement ctx i statement table
    let lowered ← lowerFrom ctx (i + 1) rest table
    return { lowered with blocks := block :: lowered.blocks }

/-- Lowers every statement. -/
def lowerProgram (ctx : Context) : Except Fault LoweredProgram := do
  let p := ctx.registry.program
  let table ← enterFunctions ctx.registry p.functions (p.statements.map fun _ => none)
  lowerFrom ctx 0 p.statements table

end SierraCasm.Lowering
