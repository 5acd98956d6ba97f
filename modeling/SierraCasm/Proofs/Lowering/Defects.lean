import SierraCasm.Compile
import SierraCasm.Proofs.Lowering.Shapes
import SierraCasm.Proofs.Registry.Acceptance

/-! # What lowering stops with

Most of what lowering finds wrong with a statement is about this statement and its arguments alone
(`Defect.isLocal`).  The other defects are about how a statement is reached and about the variables
that are alive beside its arguments: they are found when a branch is passed on, when a return leaves
variables over and when no environment has arrived, and nowhere else (`local_lowerInvocation`,
`local_takeArgs`, `local_bindResults`, `local_entryEnv`).  `StatementFails` lists what lowering one
statement stops with, and `FlowFails` what passing one of its branches on does.

So what a program stops with follows from what its statements stop with, each after those before it
were lowered (`stopsOnly_lowerProgram`). -/

namespace SierraCasm

open Sierra Concrete

namespace Lowering

/-! ### Local defects -/

/-- The defects that are about a statement and its arguments alone. -/
def Defect.isLocal : Defect → Bool
  | .unreachable | .noReferences _ | .inconsistent _ | .stillAlive _ => false
  | _ => true

/-- A computation that stops with local defects only. -/
def Local {α : Type} (x : Except Defect α) : Prop := StopsOnly (fun d => d.isLocal = true) x

theorem local_needing {α : Type} (libfunc : String) (value : Except ValueDefect α) :
    Local (needing libfunc value) :=
  StopsOnly.mapError (P := fun _ => True) (fun _ _ => trivial) fun _ _ => rfl

theorem local_cellCount (r : Registry) (type : Ident) : Local (cellCount r type) := by
  unfold cellCount
  split
  · split
    · exact .ok
    · exact .error rfl
  · exact .error rfl

theorem local_withSizes (r : Registry) (types : List Ident) : Local (withSizes r types) :=
  .mapM fun type => (local_cellCount r type).bind fun _ _ => .ok

theorem local_reserve (n : Nat) : Local (reserve n) := .require rfl

theorem local_reserveAll (sized : List (Ident × Nat)) : Local (reserveAll sized) :=
  .checkAll fun x => local_reserve x.2

theorem local_branchTarget (inv : Invocation) (i b : Nat) : Local (branchTarget inv i b) := by
  unfold branchTarget
  split
  · exact .ok
  · exact .error rfl

theorem local_checkOnTop (s : ApState) (values : Stacked) (refs : List Ref) :
    Local (checkOnTop s values refs) := by
  refine (local_reserve _).bind fun _ _ => ?_
  split
  · exact .error rfl
  · exact .ok

theorem local_split (cells : List Expr) (sized : List (Ident × Nat)) :
    Local (split cells sized) := by
  induction sized generalizing cells with
  | nil => exact .ok
  | cons x sized ih =>
    unfold split
    split
    · exact (ih _).bind fun _ _ => .ok
    · exact .error rfl

section invocations

variable {i : Nat} {s : ApState} {sig : Signature} {inv : Invocation}

theorem local_lowerStoreTemp (cells : List Expr) : Local (lowerStoreTemp s sig cells) :=
  (local_needing _ _).bind fun _ _ => .ok

theorem local_lowerIsZero (e : Expr) : Local (lowerIsZero i s sig inv e) :=
  (local_needing _ _).bind fun _ _ => (local_branchTarget _ _ _).bind fun _ _ => .ok

theorem local_lowerCall (ctx : Context) (callee : Function) (args : List Ref) :
    Local (lowerCall ctx i s sig callee args) := by
  refine (local_checkOnTop _ _ _).bind fun _ _ => (local_withSizes _ _).bind fun _ _ => ?_
  refine (local_reserveAll _).bind fun _ _ => ?_
  split
  · exact .error rfl
  · exact .ok

theorem local_lowerWithdrawGas (rangeCheck gas : Ref) (counter : Expr) :
    Local (lowerWithdrawGas i s inv rangeCheck gas counter) :=
  (local_needing _ _).bind fun _ _ => (local_branchTarget _ _ _).bind fun _ _ => .ok

theorem local_lowerConstruct (args : List Ref) : Local (lowerConstruct sig args) :=
  (local_reserve _).bind fun _ _ => .ok

theorem local_lowerDeconstruct (r : Registry) (cells : List Expr) :
    Local (lowerDeconstruct r sig cells) :=
  (local_withSizes _ _).bind fun _ _ => (local_split _ _).bind fun _ _ => .ok

theorem local_lowerUnbox (r : Registry) (contents : Ident) (e : Expr) :
    Local (lowerUnbox r s sig contents e) := by
  refine (local_needing _ _).bind fun _ _ => (local_cellCount _ _).bind fun _ _ => ?_
  refine (local_reserve _).bind fun _ _ => ?_
  split
  · exact .ok
  · exact .error rfl

theorem local_lowerInvocation (ctx : Context) (lib : ConcreteLibfunc) (args : List Ref) :
    Local (lowerInvocation ctx i s lib inv args) := by
  have hbinary : ∀ op a b, Local ((arithmetic op a b).mapError .operand) := fun _ _ _ =>
    StopsOnly.mapError (P := fun _ => True) (fun _ _ => trivial) fun _ _ => rfl
  unfold lowerInvocation
  dsimp only
  split
  · exact .ok
  · exact .ok
  · exact .ok
  · exact (hbinary _ _ _).bind fun _ _ => .ok
  · exact local_lowerStoreTemp _
  iterate 8 exact .ok
  · exact (local_branchTarget _ _ _).bind fun _ _ => .ok
  · exact local_lowerIsZero _
  · exact local_lowerCall _ _ _
  · exact local_lowerWithdrawGas _ _ _
  · exact local_lowerConstruct _
  · exact local_lowerDeconstruct _ _
  · exact local_lowerUnbox _ _ _
  · exact .ok
  · exact .error rfl

end invocations

theorem local_takeArgs (e : Env) (vars : List VarId) (types : List Ident) :
    Local (takeArgs e vars types) := by
  intro defect h
  rcases takeArgs_eq_error h with ⟨v, rfl⟩ | ⟨v, actual, type, rfl⟩ | ⟨-, rfl⟩ <;> rfl

theorem local_bindResults (e : Env) (vars : List VarId) (refs : List Ref) :
    Local (bindResults e vars refs) := by
  intro defect h
  rcases bindResults_eq_error h with ⟨v, rfl⟩ | ⟨-, rfl⟩ <;> rfl

theorem local_entryEnv (r : Registry) (f : Function) : Local (entryEnv r f) :=
  (local_withSizes _ _).bind fun _ _ => (local_withSizes _ _).bind fun _ _ =>
    (local_reserveAll _).bind fun _ _ => .ok

/-! ### Branches -/

section branches

variable {m : Metadata} {i b : Nat} {rest : Env} {table : EnvTable}

/-- What passing branch `b` of statement `i` on to its target stops with. -/
inductive FlowFails (m : Metadata) (i b : Nat) (rest : Env) (branch : Branch) (outputs : List Ref)
    (table : EnvTable) : Fault → Prop
  | results {defect : Defect} : bindResults rest branch.results outputs = .error defect →
      FlowFails m i b rest branch outputs table ⟨i, defect⟩
  | unrecorded : m.branchState? i b = none ∨ m.state? (branch.target.resolve i).toNat = none →
      FlowFails m i b rest branch outputs table ⟨i, .malformed⟩
  | inconsistent {e existing : Env} : Brings m i b rest branch outputs e →
      table.at? (branch.target.resolve i).toNat = some existing → existing.same e = false →
      FlowFails m i b rest branch outputs table
        ⟨(branch.target.resolve i).toNat, .inconsistent e.vars⟩
  | noReferences : table.at? (branch.target.resolve i).toNat = none →
      (branch.target.resolve i).toNat ≤ i →
      FlowFails m i b rest branch outputs table
        ⟨(branch.target.resolve i).toNat, .noReferences i⟩

theorem flow_eq_error {branch : Branch} {outputs : List Ref} {fault : Fault}
    (h : flow m i b rest branch outputs table = .error fault) :
    FlowFails m i b rest branch outputs table fault := by
  rcases bind_eq_error.mp h with hresults | ⟨next, hnext, h⟩
  · obtain ⟨defect, hdefect, rfl⟩ := mapError_eq_error.mp hresults
    exact .results hdefect
  · dsimp only at h
    split at h
    · rename_i after arrival hafter harrival
      have hbrings : Brings m i b rest branch outputs
          (if after.epoch = arrival.epoch then next else next.invalidateAp) :=
        ⟨next, after, arrival, mapError_eq_ok.mp hnext, hafter, harrival, rfl⟩
      generalize (if after.epoch = arrival.epoch then next else next.invalidateAp) = e at h hbrings
      split at h
      · rename_i existing hexisting
        split at h
        · cases h
        · rename_i hsame
          cases h
          exact .inconsistent hbrings hexisting (Bool.eq_false_iff.mpr hsame)
      · rename_i hnone
        split at h
        · rename_i hle
          cases h
          exact .noReferences hnone hle
        · cases h
    · rename_i hother
      cases h
      refine .unrecorded ?_
      cases hafter : m.branchState? i b with
      | none => exact .inl rfl
      | some after =>
        cases harrival : m.state? (branch.target.resolve i).toNat with
        | none => exact .inr rfl
        | some arrival => exact (hother after arrival hafter harrival).elim

theorem flowAll_eq_error {branches : List Branch} {outputs : List (List Ref)} {fault : Fault}
    (h : flowAll m i rest b branches outputs table = .error fault) :
    (branches.length ≠ outputs.length ∧ fault = ⟨i, .malformed⟩) ∨
      ∃ k branch refs table', branches[k]? = some branch ∧ outputs[k]? = some refs ∧
        flowAll m i rest b (branches.take k) (outputs.take k) table = .ok table' ∧
        FlowFails m i (b + k) rest branch refs table' fault := by
  induction branches generalizing b outputs table with
  | nil =>
    cases outputs with
    | nil => cases h
    | cons _ _ =>
      cases h
      exact .inl ⟨by simp, rfl⟩
  | cons branch branches ih =>
    cases outputs with
    | nil =>
      cases h
      exact .inl ⟨by simp, rfl⟩
    | cons refs outputs =>
      rcases bind_eq_error.mp h with hflow | ⟨table₁, hfirst, h⟩
      · exact .inr ⟨0, branch, refs, table, rfl, rfl, rfl, flow_eq_error hflow⟩
      · rcases ih h with ⟨hne, rfl⟩ | ⟨k, branch', refs', table', hb, hrefs, hbefore, hfails⟩
        · exact .inl ⟨fun heq => hne (Nat.succ.inj heq), rfl⟩
        · rw [Nat.add_right_comm] at hfails
          exact .inr ⟨k + 1, branch', refs', table', hb, hrefs,
            bind_eq_ok.mpr ⟨table₁, hfirst, hbefore⟩, hfails⟩

end branches

/-! ### Statements -/

/-- What lowering statement `i`, from the environments that have arrived, stops with. -/
inductive StatementFails (ctx : Context) (envs : EnvTable) (i : Nat) : Statement → Fault → Prop
  | unreached {statement : Statement} : ctx.metadata.site? i = none ∨ envs.at? i = none →
      StatementFails ctx envs i statement ⟨i, .unreachable⟩
  | ownerless {vars : List VarId} {site : Ap.Site} : ctx.metadata.site? i = some site →
      ctx.registry.program.functions[site.owner]? = none →
      StatementFails ctx envs i (.ret vars) ⟨i, .malformed⟩
  | ret {vars : List VarId} {site : Ap.Site} {env : Env} {f : Function} {defect : Defect} :
      ctx.metadata.site? i = some site → envs.at? i = some env →
      ctx.registry.program.functions[site.owner]? = some f →
      lowerReturn f site.state env vars = .error defect →
      StatementFails ctx envs i (.ret vars) ⟨i, defect⟩
  | undeclared {inv : Invocation} : ctx.registry.libfunc? inv.libfunc = none →
      StatementFails ctx envs i (.invoke inv) ⟨i, .malformed⟩
  | args {inv : Invocation} {env : Env} {lib : ConcreteLibfunc} {defect : Defect} :
      ctx.registry.libfunc? inv.libfunc = some lib →
      takeArgs env inv.args lib.signature.params = .error defect →
      StatementFails ctx envs i (.invoke inv) ⟨i, defect⟩
  | lowering {inv : Invocation} {site : Ap.Site} {env rest : Env} {lib : ConcreteLibfunc}
      {args : List Ref} {defect : Defect} : ctx.metadata.site? i = some site →
      envs.at? i = some env → ctx.registry.libfunc? inv.libfunc = some lib →
      takeArgs env inv.args lib.signature.params = .ok (args, rest) →
      lowerInvocation ctx i site.state lib inv args = .error defect →
      StatementFails ctx envs i (.invoke inv) ⟨i, defect⟩
  | branches {inv : Invocation} {site : Ap.Site} {env rest : Env} {lib : ConcreteLibfunc}
      {args : List Ref} {lowered : Lowered} :
      Invoked ctx envs i inv site env lib args rest lowered →
      inv.branches.length ≠ lowered.outputs.length →
      StatementFails ctx envs i (.invoke inv) ⟨i, .malformed⟩
  | branch {inv : Invocation} {site : Ap.Site} {env rest : Env} {lib : ConcreteLibfunc}
      {args refs : List Ref} {lowered : Lowered} {b : Nat} {branch : Branch} {table : EnvTable}
      {fault : Fault} : Invoked ctx envs i inv site env lib args rest lowered →
      inv.branches[b]? = some branch → lowered.outputs[b]? = some refs →
      flowAll ctx.metadata i rest 0 (inv.branches.take b) (lowered.outputs.take b) envs =
        .ok table →
      FlowFails ctx.metadata i b rest branch refs table fault →
      StatementFails ctx envs i (.invoke inv) fault

theorem lowerStatement_eq_error {ctx : Context} {envs : EnvTable} {i : Nat}
    {statement : Statement} {fault : Fault}
    (hstatement : ctx.registry.program.statements[i]? = some statement)
    (h : lowerStatement ctx i statement envs = .error fault) :
    StatementFails ctx envs i statement fault := by
  unfold lowerStatement at h
  split at h
  · rename_i site env hsite henv
    cases statement with
    | ret vars =>
      dsimp only at h
      split at h
      · rename_i hf
        cases h
        exact .ownerless hsite hf
      · rename_i f hf
        rcases bind_eq_error.mp h with hret | ⟨_, -, h⟩
        · obtain ⟨defect, hdefect, rfl⟩ := mapError_eq_error.mp hret
          exact .ret hsite henv hf hdefect
        · cases h
    | invoke inv =>
      dsimp only at h
      split at h
      · rename_i hlib
        cases h
        exact .undeclared hlib
      · rename_i lib hlib
        rcases bind_eq_error.mp h with hargs | ⟨⟨args, rest⟩, hargs, h⟩
        · obtain ⟨defect, hdefect, rfl⟩ := mapError_eq_error.mp hargs
          exact .args hlib hdefect
        have hargs := mapError_eq_ok.mp hargs
        rcases bind_eq_error.mp h with hlower | ⟨lowered, hlower, h⟩
        · obtain ⟨defect, hdefect, rfl⟩ := mapError_eq_error.mp hlower
          exact .lowering hsite henv hlib hargs hdefect
        have hinvoked : Invoked ctx envs i inv site env lib args rest lowered :=
          ⟨hstatement, hsite, henv, hlib, hargs, mapError_eq_ok.mp hlower⟩
        rcases bind_eq_error.mp h with hflow | ⟨_, -, h⟩
        · rcases flowAll_eq_error hflow with
            ⟨hne, rfl⟩ | ⟨b, branch, refs, table, hb, hrefs, hbefore, hfails⟩
          · exact .branches hinvoked hne
          · rw [Nat.zero_add] at hfails
            exact .branch hinvoked hb hrefs hbefore hfails
        · cases h
  · rename_i hother
    cases h
    refine .unreached ?_
    cases hsite : ctx.metadata.site? i with
    | none => exact .inl rfl
    | some site =>
      cases henv : envs.at? i with
      | none => exact .inr rfl
      | some env => exact (hother site env hsite henv).elim

/-! ### Where lowering stops -/

theorem enterFunctions_local (r : Registry) (fs : List Function) (table : EnvTable) :
    StopsOnly (fun fault => fault.defect.isLocal = true) (enterFunctions r fs table) := by
  induction fs generalizing table with
  | nil => exact .ok
  | cons f fs ih =>
    unfold enterFunctions
    dsimp only
    split
    · split
      · exact ih _
      · rename_i defect hdefect
        exact .error (local_entryEnv r f defect hdefect)
    · exact ih _

section run

variable {ctx : Context} {P : Fault → Prop}

theorem stopsOnly_lowerFrom
    (hstatement : ∀ {k table statement}, Pass ctx k table →
      ctx.registry.program.statements[k]? = some statement →
      StopsOnly P (lowerStatement ctx k statement table))
    {i : Nat} {table : EnvTable} (hpass : Pass ctx i table) {statements : List Statement}
    (hstatements : ∀ k, statements[k]? = ctx.registry.program.statements[i + k]?) :
    StopsOnly P (lowerFrom ctx i statements table) := by
  induction statements generalizing i table with
  | nil => exact .ok
  | cons statement statements ih =>
    have hi : ctx.registry.program.statements[i]? = some statement := (hstatements 0).symm
    refine (hstatement hpass hi).bind fun lowered hlowered => ?_
    refine (ih (hpass.next hi hlowered) fun k => ?_).bind fun _ _ => .ok
    rw [Nat.add_assoc, Nat.add_comm 1]
    exact hstatements (k + 1)

/-- Lowering a program stops with local defects of the entries, and with what lowering a statement
stops with once the statements before it were lowered. -/
theorem stopsOnly_lowerProgram (hlocal : ∀ fault : Fault, fault.defect.isLocal = true → P fault)
    (hstatement : ∀ {k table statement}, Pass ctx k table →
      ctx.registry.program.statements[k]? = some statement →
      StopsOnly P (lowerStatement ctx k statement table)) :
    StopsOnly P (lowerProgram ctx) := by
  refine StopsOnly.bind (fun fault h => hlocal fault (enterFunctions_local _ _ _ fault h)) ?_
  intro table htable
  exact stopsOnly_lowerFrom hstatement (.start htable) fun k => by rw [Nat.zero_add]

end run

end Lowering

/-- A fault of lowering comes from lowering, if the gas check has passed. -/
theorem compile_eq_lowering_iff {r : Registry} {m : Metadata} {config : CompileConfig}
    {fault : Lowering.Fault} : compile r m config = .error (.lowering fault) ↔
      (config.gasCheck = true → checkGasUsage r m = .ok ()) ∧
        Lowering.lowerProgram ⟨r, m⟩ = .error fault := by
  have hlimit : ∀ l : Lowering.LoweredProgram,
      (if 0 < config.maxSize ∧ config.maxSize < (Lowering.assemble l.blocks).bytecodeSize then
        .error (.tooLarge (Lowering.assemble l.blocks).bytecodeSize config.maxSize)
      else .ok (Lowering.assemble l.blocks)) ≠ Except.error (CompileFault.lowering fault) := by
    intro l h
    split at h <;> cases h
  unfold compile
  cases hlower : Lowering.lowerProgram ⟨r, m⟩ with
  | error fault' =>
    cases hgas : config.gasCheck with
    | false => simp [bind, Except.bind, Except.mapError]
    | true =>
      cases checkGasUsage r m with
      | error gas => simp [bind, Except.bind, Except.mapError]
      | ok u => simp [bind, Except.bind, Except.mapError]
  | ok l =>
    have hlimit := hlimit l
    cases hgas : config.gasCheck with
    | false => simpa [bind, Except.bind, Except.mapError, pure, Except.pure] using hlimit
    | true =>
      cases checkGasUsage r m with
      | error gas => simp [bind, Except.bind, Except.mapError]
      | ok u => simpa [bind, Except.bind, Except.mapError, pure, Except.pure] using hlimit

end SierraCasm
