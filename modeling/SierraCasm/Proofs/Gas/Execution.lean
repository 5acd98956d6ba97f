import Mathlib.Data.Fintype.EquivFin
import Mathlib.Order.WellFounded
import SierraCasm.Gas.Check
import SierraCasm.Proofs.Ap.Runs
import SierraCasm.Proofs.Gas.Components

/-! # Executions of a program that passes the gas check

An execution goes from statement to statement with a stack of the statements that calls continue
with.  The check looks at single statements only: it finds the cycles of a graph where a call leads
into its callee and past it.  If there is none without a withdrawal of gas, then no execution
avoids withdrawals forever, however deep it recurses (`wellFounded_of_checkGasUsage`).

The check leaves out a statement that withdraws gas with both of its branches.  So an execution
may go on forever although each withdrawal fails: exactly if it can reach a withdrawal that lies on
a cycle through its own failure (`exists_failing_run_iff`). -/

namespace SierraCasm.Gas

open Sierra Concrete Relation

/-! ### Executions -/

/-- A statement about to be executed, and the statements that the calls under way continue with. -/
structure Config where
  statement : Nat
  callers : List Nat
deriving DecidableEq, Repr

/-- One step of an execution in which a withdrawal of gas may only take the branches in `W`: along
a branch, into a callee, or back from one. -/
inductive Step (r : Registry) (W : Nat → Prop) : Config → Config → Prop
  | branch {i b target : Nat} {callers : List Nat} {lib : ConcreteLibfunc}
      {sig : BranchSignature} : r.Edge i b lib sig target →
      (∀ callee, lib.operation ≠ .functionCall callee) →
      (lib.operation = .withdrawGas → W b) → Step r W ⟨i, callers⟩ ⟨target, callers⟩
  | call {i b target : Nat} {callers : List Nat} {lib : ConcreteLibfunc}
      {sig : BranchSignature} {callee : Function} : r.Edge i b lib sig target →
      lib.operation = .functionCall callee →
      Step r W ⟨i, callers⟩ ⟨callee.entry.toNat, target :: callers⟩
  | ret {i target : Nat} {callers : List Nat} : r.IsReturn i →
      Step r W ⟨i, target :: callers⟩ ⟨target, callers⟩

/-- An execution that does not end. -/
def Runs (r : Registry) (W : Nat → Prop) (c : Config) : Prop :=
  ∃ run : Nat → Config, run 0 = c ∧ ∀ k, Step r W (run k) (run (k + 1))

/-- The configuration at the entry of a function. -/
def Config.entry (f : Function) : Config := ⟨f.entry.toNat, []⟩

/-- An execution ends exactly if its configuration is accessible along steps. -/
theorem runs_iff {r : Registry} {W : Nat → Prop} {c : Config} :
    Runs r W c ↔ ¬ Acc (fun c' c => Step r W c c') c := by
  rw [not_acc_iff_exists_descending_chain]
  rfl

/-! ### The flow graph -/

section flow

variable {r : Registry} {m : Metadata} {i b target : Nat} {lib : ConcreteLibfunc}
  {sig : BranchSignature} {callee : Function}

theorem withdraws_iff (hedge : r.Edge i b lib sig target) :
    withdraws r i = true ↔ lib.operation = .withdrawGas := by
  obtain ⟨inv, branch, hinv, hlib, -⟩ := hedge
  simp [withdraws, libfuncAt?, hinv, hlib]

theorem free_iff : free r i = true ↔ i < r.program.statements.length ∧ withdraws r i = false := by
  simp [free]

theorem mem_targets_iff {t : Int} : t ∈ targets r i ↔
    ∃ inv, r.program.statements[i]? = some (.invoke inv) ∧
      ((∃ lib callee, r.libfunc? inv.libfunc = some lib ∧ lib.operation = .functionCall callee ∧
        callee.entry = t) ∨
      ∃ branch ∈ inv.branches, branch.target.resolve i = t) := by
  cases hstatement : r.program.statements[i]? with
  | none => simp [targets, hstatement]
  | some statement =>
    cases statement with
    | ret vars => simp [targets, hstatement]
    | invoke inv =>
      simp only [targets, hstatement, List.mem_append, List.mem_map, Option.some.injEq,
        Statement.invoke.injEq, exists_eq_left']
      refine or_congr_left ?_
      split
      · rename_i callee hcall
        obtain ⟨lib, hlib, hop⟩ := Option.map_eq_some_iff.mp hcall
        simp [hlib, hop, eq_comm]
      · rename_i hcall
        refine iff_of_false List.not_mem_nil ?_
        rintro ⟨lib, callee, hlib, hop, -⟩
        exact hcall callee (by rw [hlib, Option.map_some, hop])

theorem mem_succ_of_target {t : Int} (ht : t ∈ targets r i) (hfree : free r t.toNat = true) :
    t.toNat ∈ (flowGraph r m).succ i :=
  List.mem_filter.mpr ⟨List.mem_map_of_mem ht, hfree⟩

theorem mem_succ_of_edge (hedge : r.Edge i b lib sig target) (hfree : free r target = true) :
    target ∈ (flowGraph r m).succ i := by
  obtain ⟨inv, branch, hinv, hlib, hbranch, -, rfl⟩ := hedge
  exact mem_succ_of_target
    (mem_targets_iff.mpr ⟨inv, hinv, .inr ⟨branch, List.mem_of_getElem? hbranch, rfl⟩⟩) hfree

theorem mem_succ_of_call (hedge : r.Edge i b lib sig target)
    (hcall : lib.operation = .functionCall callee) (hfree : free r callee.entry.toNat = true) :
    callee.entry.toNat ∈ (flowGraph r m).succ i := by
  obtain ⟨inv, branch, hinv, hlib, -⟩ := hedge
  exact mem_succ_of_target
    (mem_targets_iff.mpr ⟨inv, hinv, .inl ⟨lib, callee, hlib, hcall, rfl⟩⟩) hfree

theorem of_mem_succ (hvalid : r.Valid) {j : Nat} (hj : j ∈ (flowGraph r m).succ i) :
    free r j = true ∧ ∃ b lib sig target, r.Edge i b lib sig target ∧
      (target = j ∨ ∃ callee, lib.operation = .functionCall callee ∧ callee.entry.toNat = j) := by
  obtain ⟨hj, hfree⟩ := List.mem_filter.mp hj
  obtain ⟨t, ht, rfl⟩ := List.mem_map.mp hj
  refine ⟨hfree, ?_⟩
  obtain ⟨inv, hstatement, ht⟩ := mem_targets_iff.mp ht
  obtain ⟨lib, hlib, hinv⟩ := hvalid.invocation hstatement
  have hedge : ∀ {b branch}, inv.branches[b]? = some branch →
      ∃ sig, r.Edge i b lib sig (branch.target.resolve i).toNat := by
    intro b branch hb
    obtain ⟨sig, hsig⟩ := hinv.exists_signature hb
    exact ⟨sig, inv, branch, hstatement, hlib, hb, hsig, rfl⟩
  rcases ht with ⟨lib', callee, hlib', hop, rfl⟩ | ⟨branch, hbranch, rfl⟩
  · obtain rfl := Option.some.inj (hlib.symm.trans hlib')
    have hlt : 0 < inv.branches.length := by
      rw [hinv.branches, ((hvalid.libfunc hlib).of_functionCall hop).1]
      exact Nat.one_pos
    obtain ⟨sig, hedge⟩ := hedge (List.getElem?_eq_getElem hlt)
    exact ⟨0, lib, sig, _, hedge, .inr ⟨callee, hop, rfl⟩⟩
  · obtain ⟨b, hb⟩ := List.mem_iff_getElem?.mp hbranch
    obtain ⟨sig, hedge⟩ := hedge hb
    exact ⟨b, lib, sig, _, hedge, .inl rfl⟩

theorem reached_target (hm : m.Consistent r) (hi : (m.site? i).isSome)
    (hedge : r.Edge i b lib sig target) : (m.site? target).isSome := by
  obtain ⟨site, hsite⟩ := Option.isSome_iff_exists.mp hi
  obtain ⟨-, site', -, -, hsite', -⟩ := hm.edge hsite hedge
  rw [hsite', Option.isSome_some]

theorem reached_entry (hm : m.Consistent r) {f : Function} (hf : f ∈ r.program.functions)
    (hlt : f.entry.toNat < r.program.statements.length) : (m.site? f.entry.toNat).isSome := by
  obtain ⟨k, hk⟩ := List.mem_iff_getElem?.mp hf
  obtain ⟨site, hsite, -⟩ := hm.entry hk hlt
  rw [hsite, Option.isSome_some]

theorem callee_mem_of_edge (hvalid : r.Valid) (hedge : r.Edge i b lib sig target)
    (hcall : lib.operation = .functionCall callee) : callee ∈ r.program.functions := by
  obtain ⟨inv, branch, -, hlib, -⟩ := hedge
  exact hvalid.callee_mem hlib hcall

theorem lt_of_edge (hedge : r.Edge i b lib sig target) : i < r.program.statements.length := by
  obtain ⟨inv, branch, hinv, -⟩ := hedge
  exact (List.getElem?_eq_some_iff.mp hinv).1

theorem mem_nodes_iff : i ∈ (flowGraph r m).nodes ↔ (m.site? i).isSome ∧ free r i = true := by
  simp only [flowGraph, List.mem_filter, List.mem_range, Bool.and_eq_true]
  exact ⟨fun h => h.2, fun h => ⟨(free_iff.mp h.2).1, h⟩⟩

theorem flowGraph_closed (hvalid : r.Valid) (hm : m.Consistent r) : (flowGraph r m).Closed := by
  intro i hi j hj
  obtain ⟨hreached, -⟩ := mem_nodes_iff.mp hi
  obtain ⟨hfree, b, lib, sig, target, hedge, rfl | ⟨callee, hcall, rfl⟩⟩ := of_mem_succ hvalid hj
  · exact mem_nodes_iff.mpr ⟨reached_target hm hreached hedge, hfree⟩
  · exact mem_nodes_iff.mpr
      ⟨reached_entry hm (callee_mem_of_edge hvalid hedge hcall) (free_iff.mp hfree).1, hfree⟩

/-- In a program that passes the check, no path of the graph is infinite. -/
theorem acc_of_checkGasUsage (hvalid : r.Valid) (hm : m.Consistent r)
    (hcheck : checkGasUsage r m = .ok ()) (hi : (m.site? i).isSome) (hfree : free r i = true) :
    Acc (fun j i => j ∈ (flowGraph r m).succ i) i := by
  have hcycle : (flowGraph r m).lowestCycle = none := by
    unfold checkGasUsage at hcheck
    split at hcheck
    · assumption
    · cases hcheck
  exact Graph.acc_of_lowestCycle_eq_none (flowGraph_closed hvalid hm) hcycle
    (mem_nodes_iff.mpr ⟨hi, hfree⟩)

end flow

/-! ### Executions without withdrawals -/

section withdrawalFree

variable {r : Registry} {m : Metadata}

/-- A step of a reached statement that does not withdraw gas. -/
def PlainStep (r : Registry) (m : Metadata) (c c' : Config) : Prop :=
  (m.site? c.statement).isSome ∧ Step r (fun _ => False) c c'

theorem free_of_step {c c' : Config} (h : Step r (fun _ => False) c c') :
    free r c.statement = true := by
  cases h with
  | branch hedge _ hwithdraw =>
    refine free_iff.mpr ⟨lt_of_edge hedge, Bool.eq_false_iff.mpr fun h => ?_⟩
    exact hwithdraw ((withdraws_iff hedge).mp h)
  | call hedge hcall =>
    refine free_iff.mpr ⟨lt_of_edge hedge, Bool.eq_false_iff.mpr fun h => ?_⟩
    rw [(withdraws_iff hedge).mp h] at hcall
    cases hcall
  | ret hreturn =>
    obtain ⟨vars, hret⟩ := hreturn
    refine free_iff.mpr ⟨(List.getElem?_eq_some_iff.mp hret).1, ?_⟩
    simp [withdraws, libfuncAt?, hret]

theorem acc_of_not_free {i : Nat} (h : free r i ≠ true) (callers : List Nat) :
    Acc (fun c' c => PlainStep r m c c') ⟨i, callers⟩ :=
  ⟨_, fun _ hstep => absurd (free_of_step hstep.2) h⟩

/-- An execution from `i` ends if the one that its callers continue with does.  A call goes into
the callee, which ends if its continuation does, and that one is a branch of the call. -/
theorem acc_plainStep {i : Nat} (hi : Acc (fun j i => j ∈ (flowGraph r m).succ i) i)
    (callers : List Nat)
    (hcallers : ∀ target rest, callers = target :: rest →
      Acc (fun c' c => PlainStep r m c c') ⟨target, rest⟩) :
    Acc (fun c' c => PlainStep r m c c') ⟨i, callers⟩ := by
  induction hi generalizing callers with
  | intro i _ ih =>
    have hbranch : ∀ {b target : Nat} {lib : ConcreteLibfunc} {sig : BranchSignature},
        r.Edge i b lib sig target →
        Acc (fun c' c => PlainStep r m c c') ⟨target, callers⟩ := by
      intro b target lib sig hedge
      by_cases hfree : free r target = true
      · exact ih target (mem_succ_of_edge hedge hfree) callers hcallers
      · exact acc_of_not_free hfree callers
    refine ⟨_, fun c' hstep => ?_⟩
    cases hstep.2 with
    | branch hedge _ _ => exact hbranch hedge
    | @call _ _ target _ _ _ callee hedge hcall =>
      by_cases hfree : free r callee.entry.toNat = true
      · refine ih _ (mem_succ_of_call hedge hcall hfree) _ fun t rest heq => ?_
        cases heq
        exact hbranch hedge
      · exact acc_of_not_free hfree _
    | ret _ => exact hcallers _ _ rfl

theorem wellFounded_plainStep (hvalid : r.Valid) (hm : m.Consistent r)
    (hcheck : checkGasUsage r m = .ok ()) : WellFounded fun c' c => PlainStep r m c c' := by
  refine ⟨fun ⟨i, callers⟩ => ?_⟩
  induction callers generalizing i with
  | nil =>
    refine ⟨_, fun c' hstep => ?_⟩
    have hacc := acc_of_checkGasUsage hvalid hm hcheck hstep.1 (free_of_step hstep.2)
    exact (acc_plainStep hacc [] (by simp)).inv hstep
  | cons target callers ih =>
    refine ⟨_, fun c' hstep => ?_⟩
    have hacc := acc_of_checkGasUsage hvalid hm hcheck hstep.1 (free_of_step hstep.2)
    refine (acc_plainStep hacc (target :: callers) fun t rest heq => ?_).inv hstep
    cases heq
    exact ih _

end withdrawalFree

/-! ### Executions stay in reached statements -/

section reached

variable {r : Registry} {m : Metadata}

/-- The statements of a configuration are reached by the analysis; only the entry of a function
without a body is not. -/
structure Reached (r : Registry) (m : Metadata) (c : Config) : Prop where
  statement : c.statement < r.program.statements.length → (m.site? c.statement).isSome
  callers : ∀ i ∈ c.callers, (m.site? i).isSome

theorem reached_of_mem (hm : m.Consistent r) {f : Function} (hf : f ∈ r.program.functions) :
    Reached r m (.entry f) :=
  ⟨reached_entry hm hf, by simp [Config.entry]⟩

theorem Reached.step {W : Nat → Prop} {c c' : Config} (hvalid : r.Valid) (hm : m.Consistent r)
    (h : Reached r m c) (hstep : Step r W c c') :
    (m.site? c.statement).isSome ∧ Reached r m c' := by
  cases hstep with
  | branch hedge _ _ =>
    have hi := h.statement (lt_of_edge hedge)
    exact ⟨hi, fun _ => reached_target hm hi hedge, h.callers⟩
  | call hedge hcall =>
    have hi := h.statement (lt_of_edge hedge)
    refine ⟨hi, reached_entry hm (callee_mem_of_edge hvalid hedge hcall), fun i hmem => ?_⟩
    rcases List.mem_cons.mp hmem with rfl | hmem
    · exact reached_target hm hi hedge
    · exact h.callers i hmem
  | ret hreturn =>
    obtain ⟨vars, hret⟩ := hreturn
    refine ⟨h.statement (List.getElem?_eq_some_iff.mp hret).1, fun _ => ?_, fun i hmem => ?_⟩
    · exact h.callers _ List.mem_cons_self
    · exact h.callers i (List.mem_cons_of_mem _ hmem)

end reached

/-- In a program that passes the check, the steps of reached statements that do not withdraw gas
are well-founded, and no execution of a function avoids withdrawals forever. -/
theorem wellFounded_of_checkGasUsage {p : Program} {r : Registry} {m : Metadata}
    (hbuild : Registry.build p = .ok r) (hanalyze : analyze r = .ok m)
    (hcheck : checkGasUsage r m = .ok ()) :
    (WellFounded fun c' c => PlainStep r m c c') ∧
      ∀ f ∈ r.program.functions, ¬ Runs r (fun _ => False) (.entry f) := by
  have hvalid := (Registry.build_valid hbuild).2
  have hm := analyze_consistent hanalyze
  have hwf := wellFounded_plainStep hvalid hm hcheck
  refine ⟨hwf, fun f hf ⟨run, hstart, hrun⟩ => ?_⟩
  have hreached : ∀ k, Reached r m (run k) := by
    intro k
    induction k with
    | zero =>
      rw [hstart]
      exact reached_of_mem hm hf
    | succ k ih => exact (ih.step hvalid hm (hrun k)).2
  have hplain : ∀ k, PlainStep r m (run k) (run (k + 1)) :=
    fun k => ⟨((hreached k).step hvalid hm (hrun k)).1, hrun k⟩
  exact not_acc_iff_exists_descending_chain.mpr ⟨run, rfl, hplain⟩ (hwf.apply (run 0))

/-- The executions of `relay` withdraw gas again and again. -/
theorem wellFounded_relay :
    ∃ r m, Registry.build relay = .ok r ∧ analyze r = .ok m ∧ checkGasUsage r m = .ok () ∧
      (WellFounded fun c' c => PlainStep r m c c') ∧
      ∀ f ∈ r.program.functions, ¬ Runs r (fun _ => False) (.entry f) := by
  obtain ⟨r, hbuild, hr⟩ : ∃ r, Registry.build relay = .ok r ∧
      ((analyze r).toOption.any fun m => (checkGasUsage r m).toOption.any fun _ => true) = true :=
    exists_of_toOption_any (by decide +kernel)
  obtain ⟨m, hanalyze, hm⟩ := exists_of_toOption_any hr
  obtain ⟨⟨⟩, hcheck, -⟩ := exists_of_toOption_any hm
  exact ⟨r, m, hbuild, hanalyze, hcheck, wellFounded_of_checkGasUsage hbuild hanalyze hcheck⟩

/-! ### Control flow of executions -/

section flows

variable {r : Registry} {W : Nat → Prop}

/-- An execution from statement `i` can return. -/
def Completes (r : Registry) (W : Nat → Prop) (i : Nat) : Prop :=
  ∃ j, r.IsReturn j ∧ ReflTransGen (Step r W) ⟨i, []⟩ ⟨j, []⟩

/-- Where executions can go from a statement: along a branch, into a callee, or past one that can
return. -/
inductive Flows (r : Registry) (W : Nat → Prop) : Nat → Nat → Prop
  | branch {i b target : Nat} {lib : ConcreteLibfunc} {sig : BranchSignature} :
      r.Edge i b lib sig target → (∀ callee, lib.operation ≠ .functionCall callee) →
      (lib.operation = .withdrawGas → W b) → Flows r W i target
  | enter {i b target : Nat} {lib : ConcreteLibfunc} {sig : BranchSignature}
      {callee : Function} : r.Edge i b lib sig target →
      lib.operation = .functionCall callee → Flows r W i callee.entry.toNat
  | past {i b target : Nat} {lib : ConcreteLibfunc} {sig : BranchSignature}
      {callee : Function} : r.Edge i b lib sig target →
      lib.operation = .functionCall callee → Completes r W callee.entry.toNat →
      Flows r W i target

theorem Step.under {i j : Nat} {callers callers' : List Nat}
    (h : Step r W ⟨i, callers⟩ ⟨j, callers'⟩) (rest : List Nat) :
    Step r W ⟨i, callers ++ rest⟩ ⟨j, callers' ++ rest⟩ := by
  cases h with
  | branch hedge hcall hwithdraw => exact .branch hedge hcall hwithdraw
  | call hedge hcall => exact .call hedge hcall
  | ret hreturn => exact .ret hreturn

/-- An execution does not look below the stack that it starts with. -/
theorem steps_under {c c' : Config} (h : ReflTransGen (Step r W) c c') (rest : List Nat) :
    ReflTransGen (Step r W) ⟨c.statement, c.callers ++ rest⟩
      ⟨c'.statement, c'.callers ++ rest⟩ :=
  h.lift (fun c => (⟨c.statement, c.callers ++ rest⟩ : Config)) fun _ _ hstep => hstep.under rest

/-- A call of a function that can return gets past it. -/
theorem steps_past {i b target : Nat} {lib : ConcreteLibfunc} {sig : BranchSignature}
    {callee : Function} (hedge : r.Edge i b lib sig target)
    (hcall : lib.operation = .functionCall callee)
    (hcomplete : Completes r W callee.entry.toNat) (callers : List Nat) :
    TransGen (Step r W) ⟨i, callers⟩ ⟨target, callers⟩ := by
  obtain ⟨j, hreturn, hsteps⟩ := hcomplete
  have hcallee := steps_under hsteps (target :: callers)
  exact .tail (.trans_left (.single (.call hedge hcall)) hcallee) (.ret hreturn)

theorem steps_of_flows {i j : Nat} (h : Flows r W i j) (callers : List Nat) :
    ∃ callers', TransGen (Step r W) ⟨i, callers⟩ ⟨j, callers'⟩ := by
  cases h with
  | branch hedge hcall hwithdraw => exact ⟨callers, .single (.branch hedge hcall hwithdraw)⟩
  | enter hedge hcall => exact ⟨_, .single (.call hedge hcall)⟩
  | past hedge hcall hcomplete => exact ⟨callers, steps_past hedge hcall hcomplete callers⟩

theorem steps_of_path {i j : Nat} (h : TransGen (Flows r W) i j) (callers : List Nat) :
    ∃ callers', TransGen (Step r W) ⟨i, callers⟩ ⟨j, callers'⟩ := by
  induction h with
  | single h => exact steps_of_flows h callers
  | tail _ h ih =>
    obtain ⟨callers', hsteps⟩ := ih
    obtain ⟨callers'', hsteps'⟩ := steps_of_flows h callers'
    exact ⟨callers'', hsteps.trans hsteps'⟩

/-- An execution that reaches a cycle need not end. -/
theorem runs_of_cycle {i j : Nat} (hreach : ReflTransGen (Flows r W) i j)
    (hcycle : TransGen (Flows r W) j j) : Runs r W ⟨i, []⟩ := by
  have hloop : ∀ c : Config, Acc (TransGen fun c' c => Step r W c c') c → c.statement ≠ j := by
    intro c hacc
    induction hacc with
    | intro c _ ih =>
      rintro rfl
      obtain ⟨callers, hsteps⟩ := steps_of_path hcycle c.callers
      exact ih ⟨c.statement, callers⟩ (transGen_swap.mpr hsteps) rfl
  rw [runs_iff]
  intro hacc
  rcases reflTransGen_iff_eq_or_transGen.mp hreach with rfl | hreach
  · exact hloop _ hacc.transGen rfl
  · obtain ⟨callers, hsteps⟩ := steps_of_path hreach []
    exact hloop ⟨j, callers⟩ (hacc.transGen.inv (transGen_swap.mpr hsteps)) rfl

/-- An execution from `i` ends if no flow from `i` is infinite, and if the one that its callers
continue with ends in case it gets there. -/
theorem acc_of_flows {i : Nat} (hi : Acc (fun j i => Flows r W i j) i) (callers : List Nat)
    (hcallers : Completes r W i → ∀ target rest, callers = target :: rest →
      Acc (fun c' c => Step r W c c') ⟨target, rest⟩) :
    Acc (fun c' c => Step r W c c') ⟨i, callers⟩ := by
  induction hi generalizing callers with
  | intro i _ ih =>
    refine ⟨_, fun c' hstep => ?_⟩
    cases hstep with
    | branch hedge hcall hwithdraw =>
      refine ih _ (.branch hedge hcall hwithdraw) callers fun ⟨j, hreturn, hsteps⟩ => ?_
      exact hcallers ⟨j, hreturn, .head (.branch hedge hcall hwithdraw) hsteps⟩
    | call hedge hcall =>
      refine ih _ (.enter hedge hcall) _ fun hcomplete t rest heq => ?_
      cases heq
      refine ih _ (.past hedge hcall hcomplete) callers fun ⟨j, hreturn, hsteps⟩ => ?_
      exact hcallers
        ⟨j, hreturn, (steps_past hedge hcall hcomplete []).to_reflTransGen.trans hsteps⟩
    | ret hreturn => exact hcallers ⟨i, hreturn, .refl⟩ _ _ rfl

theorem Flows.lt {i j : Nat} (h : Flows r W i j) : i < r.program.statements.length := by
  cases h with
  | branch hedge _ _ | enter hedge _ | past hedge _ _ => exact lt_of_edge hedge

theorem lt_of_path {i j : Nat} (h : TransGen (Flows r W) i j) :
    i < r.program.statements.length := by
  induction h with
  | single h => exact h.lt
  | tail _ _ ih => exact ih

/-- A flow that meets no cycle is not infinite: there are finitely many statements. -/
theorem acc_flows {i : Nat}
    (hcycle : ∀ j, ReflTransGen (Flows r W) i j → ¬ TransGen (Flows r W) j j) :
    Acc (fun j i => Flows r W i j) i := by
  let S := { j : Fin r.program.statements.length // ReflTransGen (Flows r W) i j }
  let T : S → S → Prop := fun a b => TransGen (Flows r W) b.1 a.1
  have : Finite S := Subtype.finite
  have : IsTrans S T := ⟨fun a b c hab hbc => hbc.trans hab⟩
  have : Std.Irrefl T := ⟨fun a => hcycle a.1 a.2⟩
  have hwf : WellFounded T := Finite.wellFounded_of_trans_of_irrefl T
  have hall : ∀ a : S, Acc (fun j i => Flows r W i j) a.1 := by
    intro a
    induction a using hwf.induction with
    | _ a ih =>
      refine ⟨_, fun k hk => ?_⟩
      by_cases hlt : k < r.program.statements.length
      · exact ih ⟨⟨k, hlt⟩, a.2.tail hk⟩ (.single hk)
      · exact ⟨_, fun l hl => absurd hl.lt hlt⟩
  by_cases hlt : i < r.program.statements.length
  · exact hall ⟨⟨i, hlt⟩, .refl⟩
  · exact ⟨_, fun l hl => absurd hl.lt hlt⟩

end flows

/-! ### Failing withdrawals -/

section failing

variable {r : Registry} {m : Metadata} {W : Nat → Prop} {i j : Nat}

theorem mem_succ_of_flows (h : Flows r W i j) (hfree : free r j = true) :
    j ∈ (flowGraph r m).succ i := by
  cases h with
  | branch hedge _ _ => exact mem_succ_of_edge hedge hfree
  | enter hedge hcall => exact mem_succ_of_call hedge hcall hfree
  | past hedge _ _ => exact mem_succ_of_edge hedge hfree

/-- A path withdraws gas on its way, or it is one of the graph of the check. -/
theorem path_cases (h : TransGen (Flows r W) i j) :
    (∃ k, withdraws r k = true ∧ ReflTransGen (Flows r W) i k ∧ TransGen (Flows r W) k j) ∨
      (free r j = true → TransGen (fun i j => j ∈ (flowGraph r m).succ i) i j) := by
  induction h with
  | single h =>
    by_cases hwithdraw : withdraws r i = true
    · exact .inl ⟨i, hwithdraw, .refl, .single h⟩
    · exact .inr fun hfree => .single (mem_succ_of_flows h hfree)
  | @tail k j hpath h ih =>
    rcases ih with ⟨l, hwithdraw, hreach, hrest⟩ | ih
    · exact .inl ⟨l, hwithdraw, hreach, hrest.tail h⟩
    · by_cases hwithdraw : withdraws r k = true
      · exact .inl ⟨k, hwithdraw, hpath.to_reflTransGen, .single h⟩
      · refine .inr fun hfree => (ih ?_).tail (mem_succ_of_flows h hfree)
        exact free_iff.mpr ⟨h.lt, Bool.eq_false_iff.mpr hwithdraw⟩

theorem reached_of_path (hvalid : r.Valid) (hm : m.Consistent r) {f : Function}
    (hf : f ∈ r.program.functions) (h : ReflTransGen (Flows r W) f.entry.toNat i) :
    i < r.program.statements.length → (m.site? i).isSome := by
  induction h with
  | refl => exact reached_entry hm hf
  | tail _ h ih =>
    have hreached := ih h.lt
    cases h with
    | branch hedge _ _ | past hedge _ _ => exact fun _ => reached_target hm hreached hedge
    | enter hedge hcall => exact reached_entry hm (callee_mem_of_edge hvalid hedge hcall)

theorem not_rel_self_of_acc {α : Type} {R : α → α → Prop} {a : α} (h : Acc R a) : ¬ R a a := by
  induction h with
  | intro a _ ih => exact fun h => ih a h h

/-- In a checked program every cycle of the control flow of a function withdraws gas. -/
theorem withdraws_of_cycle (hvalid : r.Valid) (hm : m.Consistent r)
    (hcheck : checkGasUsage r m = .ok ()) {f : Function} (hf : f ∈ r.program.functions)
    (hreach : ReflTransGen (Flows r W) f.entry.toNat i) (hcycle : TransGen (Flows r W) i i) :
    ∃ k, withdraws r k = true ∧ ReflTransGen (Flows r W) f.entry.toNat k ∧
      TransGen (Flows r W) k k := by
  rcases path_cases (m := m) hcycle with ⟨k, hwithdraw, hik, hki⟩ | hplain
  · exact ⟨k, hwithdraw, hreach.trans hik, hki.trans_left hik⟩
  · have hlt := lt_of_path hcycle
    by_cases hwithdraw : withdraws r i = true
    · exact ⟨i, hwithdraw, hreach, hcycle⟩
    · have hfree := free_iff.mpr ⟨hlt, Bool.eq_false_iff.mpr hwithdraw⟩
      have hacc := acc_of_checkGasUsage hvalid hm hcheck
        (reached_of_path hvalid hm hf hreach hlt) hfree
      exact absurd (transGen_swap.mpr (hplain hfree)) (not_rel_self_of_acc hacc.transGen)

end failing

/-- In a program that passes the check, a function has an execution without end in which every
withdrawal of gas fails exactly if it reaches a withdrawal that lies on a cycle through its own
failure. -/
theorem exists_failing_run_iff {p : Program} {r : Registry} {m : Metadata} {f : Function}
    (hbuild : Registry.build p = .ok r) (hanalyze : analyze r = .ok m)
    (hcheck : checkGasUsage r m = .ok ()) (hf : f ∈ r.program.functions) :
    Runs r (· = 1) (.entry f) ↔
      ∃ i, withdraws r i = true ∧ ReflTransGen (Flows r (· = 1)) f.entry.toNat i ∧
        TransGen (Flows r (· = 1)) i i := by
  have hvalid := (Registry.build_valid hbuild).2
  have hm := analyze_consistent hanalyze
  constructor
  · intro hruns
    by_contra hno
    refine runs_iff.mp hruns (acc_of_flows (acc_flows fun i hreach hcycle => hno ?_) [] (by simp))
    exact withdraws_of_cycle hvalid hm hcheck hf hreach hcycle
  · rintro ⟨i, -, hreach, hcycle⟩
    exact runs_of_cycle hreach hcycle

/-- The libfuncs of a withdrawal, of storing its two builtins, and of calls of functions `0` and
`1` that take and return them. -/
def builtinLibfuncs (p : Program) : List (Ident × ConcreteLibfunc) :=
  let builtins : List Ident := [{ id := 0 }, { id := 1 }]
  let store (id : Ident) : ConcreteLibfunc :=
    { operation := .storeTemp, signature := .single [id] [id] (.known 1), type := some id }
  let call (f : Function) : ConcreteLibfunc :=
    { operation := .functionCall f, signature := .single builtins builtins (.call f.id) }
  [({ id := 0 },
    { operation := .withdrawGas
      signature :=
        { params := builtins, branches := [⟨builtins, .known 1⟩, ⟨builtins, .known 1⟩]
          fallthrough := some 0 } }),
   ({ id := 1 }, store { id := 0 }),
   ({ id := 2 }, store { id := 1 })] ++
  p.functions.mapIdx fun k f => ({ id := .ofNat (k + 3) }, call f)

theorem edge_of_builtinLibfuncs {p : Program} {r : Registry} (hprogram : r.program = p)
    (hlibfuncs : r.libfuncs = builtinLibfuncs p) {i b target : Nat} {inv : Invocation}
    {branch : Branch} {lib : ConcreteLibfunc} {sig : BranchSignature}
    (hinv : p.statements[i]? = some (.invoke inv))
    (hlib : Registry.findIdent (builtinLibfuncs p) inv.libfunc = some lib)
    (hbranch : inv.branches[b]? = some branch) (hsig : lib.signature.branches[b]? = some sig)
    (htarget : (branch.target.resolve i).toNat = target) : r.Edge i b lib sig target :=
  ⟨inv, branch, by rw [hprogram, hinv], by rw [Registry.libfunc?, hlibfuncs, hlib], hbranch, hsig,
    htarget⟩

/-- Function `0` of `relay` can go on forever without gas: the failing withdrawal leads through the
other function, which returns, back to the entry. -/
theorem failing_run_relay :
    ∃ r m f, Registry.build relay = .ok r ∧ analyze r = .ok m ∧ checkGasUsage r m = .ok () ∧
      f ∈ r.program.functions ∧ Runs r (· = 1) (.entry f) := by
  obtain ⟨r, hbuild, hr⟩ : ∃ r, Registry.build relay = .ok r ∧
      (r.libfuncs == builtinLibfuncs relay && (analyze r).toOption.any fun m =>
        (checkGasUsage r m).toOption.any fun _ => true) = true :=
    exists_of_toOption_any (by decide +kernel)
  rw [Bool.and_eq_true, beq_iff_eq] at hr
  obtain ⟨hlibfuncs, hr⟩ := hr
  obtain ⟨m, hanalyze, hm⟩ := exists_of_toOption_any hr
  obtain ⟨⟨⟩, hcheck, -⟩ := exists_of_toOption_any hm
  have hprogram := (Registry.build_valid hbuild).1
  have hf : Function.numbered 0 [0, 1] [0, 1] 0 ∈ r.program.functions := by
    rw [hprogram]
    exact List.mem_cons_self
  have hedge := @edge_of_builtinLibfuncs relay r hprogram hlibfuncs
  have hwithdraw : r.Edge 0 1 _ _ 4 := hedge rfl rfl rfl rfl rfl
  have hstore : r.Edge 4 0 _ _ 5 := hedge rfl rfl rfl rfl rfl
  have hstore' : r.Edge 5 0 _ _ 6 := hedge rfl rfl rfl rfl rfl
  have hcall : r.Edge 6 0 _ _ 7 := hedge rfl rfl rfl rfl rfl
  have hrecurse : r.Edge 7 0 _ _ 8 := hedge rfl rfl rfl rfl rfl
  have hinner : r.Edge 9 0 _ _ 10 := hedge rfl rfl rfl rfl rfl
  have hinner' : r.Edge 10 0 _ _ 11 := hedge rfl rfl rfl rfl rfl
  have hcomplete : Completes r (· = 1) 9 := by
    have hfirst : Step r (· = 1) ⟨9, []⟩ ⟨10, []⟩ :=
      .branch hinner (fun _ h => nomatch h) (fun h => nomatch h)
    have hsecond : Step r (· = 1) ⟨10, []⟩ ⟨11, []⟩ :=
      .branch hinner' (fun _ h => nomatch h) (fun h => nomatch h)
    exact ⟨11, ⟨[⟨0⟩, ⟨1⟩], by rw [hprogram]; rfl⟩, .tail (.single hfirst) hsecond⟩
  refine ⟨r, m, _, hbuild, hanalyze, hcheck, hf,
    (exists_failing_run_iff hbuild hanalyze hcheck hf).mpr
      ⟨0, (withdraws_iff hwithdraw).mpr rfl, .refl, ?_⟩⟩
  calc TransGen (Flows r (· = 1)) 0 4 :=
        .single (.branch hwithdraw (fun _ h => nomatch h) fun _ => rfl)
    Flows r (· = 1) _ 5 := .branch hstore (fun _ h => nomatch h) (fun h => nomatch h)
    Flows r (· = 1) _ 6 := .branch hstore' (fun _ h => nomatch h) (fun h => nomatch h)
    Flows r (· = 1) _ 7 := .past hcall rfl hcomplete
    Flows r (· = 1) _ 0 := .enter hrecurse rfl

/-- Function `0` calls itself when gas runs out. -/
def spin : Program where
  types := [.numbered 0 "RangeCheck", .numbered 1 "GasBuiltin"]
  libfuncs :=
    [.numbered 0 "withdraw_gas", .numbered 1 "store_temp" [.type { id := 0 }],
     .numbered 2 "store_temp" [.type { id := 1 }],
     .numbered 3 "function_call" [.userFunc { id := 0 }]]
  statements :=
    [.numbered 0 [0, 1] [(.fallthrough, [0, 1]), (.statement 4, [0, 1])],
     .numbered 1 [0] [(.fallthrough, [0])],
     .numbered 2 [1] [(.fallthrough, [1])],
     .ret [⟨0⟩, ⟨1⟩],
     .numbered 1 [0] [(.fallthrough, [0])],
     .numbered 2 [1] [(.fallthrough, [1])],
     .numbered 3 [0, 1] [(.fallthrough, [0, 1])],
     .ret [⟨0⟩, ⟨1⟩]]
  functions := [.numbered 0 [0, 1] [0, 1] 0]

/-- The check passes `spin`, which goes on forever when every withdrawal fails. -/
theorem failing_run_of_spin :
    ∃ r m f, Registry.build spin = .ok r ∧ analyze r = .ok m ∧ checkGasUsage r m = .ok () ∧
      f ∈ r.program.functions ∧ Runs r (· = 1) (.entry f) := by
  obtain ⟨r, hbuild, hr⟩ : ∃ r, Registry.build spin = .ok r ∧
      (r.libfuncs == builtinLibfuncs spin && (analyze r).toOption.any fun m =>
        (checkGasUsage r m).toOption.any fun _ => true) = true :=
    exists_of_toOption_any (by decide +kernel)
  rw [Bool.and_eq_true, beq_iff_eq] at hr
  obtain ⟨hlibfuncs, hr⟩ := hr
  obtain ⟨m, hanalyze, hm⟩ := exists_of_toOption_any hr
  obtain ⟨⟨⟩, hcheck, -⟩ := exists_of_toOption_any hm
  have hprogram := (Registry.build_valid hbuild).1
  have hedge := @edge_of_builtinLibfuncs spin r hprogram hlibfuncs
  have hwithdraw : r.Edge 0 1 _ _ 4 := hedge rfl rfl rfl rfl rfl
  have hstore : r.Edge 4 0 _ _ 5 := hedge rfl rfl rfl rfl rfl
  have hstore' : r.Edge 5 0 _ _ 6 := hedge rfl rfl rfl rfl rfl
  have hrecurse : r.Edge 6 0 _ _ 7 := hedge rfl rfl rfl rfl rfl
  refine ⟨r, m, .numbered 0 [0, 1] [0, 1] 0, hbuild, hanalyze, hcheck, ?_,
    runs_of_cycle (j := 0) .refl ?_⟩
  · rw [hprogram]
    exact List.mem_cons_self
  · calc TransGen (Flows r (· = 1)) 0 4 :=
          .single (.branch hwithdraw (fun _ h => nomatch h) fun _ => rfl)
      Flows r (· = 1) _ 5 := .branch hstore (fun _ h => nomatch h) (fun h => nomatch h)
      Flows r (· = 1) _ 6 := .branch hstore' (fun _ h => nomatch h) (fun h => nomatch h)
      Flows r (· = 1) _ 0 := .enter hrecurse rfl

end SierraCasm.Gas
