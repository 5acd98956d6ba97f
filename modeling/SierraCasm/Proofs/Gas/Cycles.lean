import SierraCasm.Proofs.Ap.Termination
import SierraCasm.Proofs.Gas.Connected
import SierraCasm.Proofs.Gas.Execution

/-! # The cycle that the gas check reports

Control can go from one reached statement to another along a branch or into a callee.  Between
statements that do not withdraw gas these steps (`UnpaidStep`) are the edges of the flow graph
(`mem_succ_iff`), so the gas check passes exactly the programs in which no statement leads back to
itself by such steps, and otherwise reports the lowest statement that does, with all that lie on a
cycle with it (`checkGasUsage_lowestCycle`). -/

namespace SierraCasm.Gas

open Sierra Concrete Relation

/-! ### Steps without a withdrawal -/

/-- A reached statement that does not withdraw gas. -/
structure Unpaid (r : Registry) (m : Metadata) (i : Nat) : Prop where
  reached : (m.site? i).isSome
  operation : ∀ {inv : Invocation} {lib : ConcreteLibfunc},
    r.program.statements[i]? = some (.invoke inv) → r.libfunc? inv.libfunc = some lib →
      lib.operation ≠ .withdrawGas

/-- Control can go from one statement to another, along a branch or into a callee, and neither of
them withdraws gas. -/
inductive UnpaidStep (r : Registry) (m : Metadata) (i j : Nat) : Prop
  | branch {inv : Invocation} {branch : Branch} :
      Unpaid r m i → Unpaid r m j → r.program.statements[i]? = some (.invoke inv) →
      branch ∈ inv.branches → branch.target.resolve i = j → UnpaidStep r m i j
  | call {inv : Invocation} {lib : ConcreteLibfunc} {callee : Function} :
      Unpaid r m i → Unpaid r m j → r.program.statements[i]? = some (.invoke inv) →
      r.libfunc? inv.libfunc = some lib → lib.operation = .functionCall callee →
      callee.entry = j → UnpaidStep r m i j

/-- Steps without a withdrawal lead from a statement back to it. -/
def Circular (r : Registry) (m : Metadata) (i : Nat) : Prop := TransGen (UnpaidStep r m) i i

/-- Steps without a withdrawal lead between two statements both ways. -/
def Interchangeable (r : Registry) (m : Metadata) (i j : Nat) : Prop :=
  ReflTransGen (UnpaidStep r m) i j ∧ ReflTransGen (UnpaidStep r m) j i

section steps

variable {r : Registry} {m : Metadata} {i j : Nat}

theorem mem_nodes_iff_unpaid (hm : m.Consistent r) :
    i ∈ (flowGraph r m).nodes ↔ Unpaid r m i := by
  rw [mem_nodes_iff, free_iff]
  constructor
  · rintro ⟨hreached, -, hfree⟩
    refine ⟨hreached, fun hinvoke hlib hop => ?_⟩
    simp [withdraws, libfuncAt?, hinvoke, hlib, hop] at hfree
  · intro h
    obtain ⟨site, hsite⟩ := Option.isSome_iff_exists.mp h.reached
    rcases hm.statement hsite with ⟨vars, hret⟩ | ⟨inv, lib, hinvoke, hlib⟩
    · refine ⟨h.reached, (List.getElem?_eq_some_iff.mp hret).1, ?_⟩
      simp [withdraws, libfuncAt?, hret]
    · refine ⟨h.reached, (List.getElem?_eq_some_iff.mp hinvoke).1, ?_⟩
      simpa [withdraws, libfuncAt?, hinvoke, hlib] using h.operation hinvoke hlib

theorem nonneg_of_mem_targets (hvalid : r.Valid) {t : Int} (ht : t ∈ targets r i) : 0 ≤ t := by
  obtain ⟨inv, hinvoke, ⟨lib, callee, hlib, hop, rfl⟩ | ⟨branch, hbranch, rfl⟩⟩ :=
    mem_targets_iff.mp ht
  · exact (hvalid.entry (hvalid.callee_mem hlib hop)).1
  · obtain ⟨lib, -, hinvocation⟩ := hvalid.invocation hinvoke
    obtain ⟨b, hb⟩ := List.mem_iff_getElem?.mp hbranch
    obtain ⟨sig, hsig⟩ := hinvocation.exists_signature hb
    exact (hinvocation.branch hb hsig).resolve_nonneg i

theorem unpaidStep_iff :
    UnpaidStep r m i j ↔ Unpaid r m i ∧ Unpaid r m j ∧ (j : Int) ∈ targets r i := by
  rw [mem_targets_iff]
  constructor
  · intro hstep
    cases hstep with
    | branch hi hj hinvoke hbranch htarget =>
      exact ⟨hi, hj, _, hinvoke, .inr ⟨_, hbranch, htarget⟩⟩
    | call hi hj hinvoke hlib hop hentry =>
      exact ⟨hi, hj, _, hinvoke, .inl ⟨_, _, hlib, hop, hentry⟩⟩
  · rintro ⟨hi, hj, inv, hinvoke, ⟨lib, callee, hlib, hop, hentry⟩ | ⟨branch, hbranch, htarget⟩⟩
    · exact .call hi hj hinvoke hlib hop hentry
    · exact .branch hi hj hinvoke hbranch htarget

/-- The edges between the nodes of the flow graph are the steps without a withdrawal. -/
theorem mem_succ_iff (hvalid : r.Valid) (hm : m.Consistent r) (hi : Unpaid r m i) :
    j ∈ (flowGraph r m).succ i ↔ UnpaidStep r m i j := by
  rw [unpaidStep_iff]
  constructor
  · intro hj
    have hunpaid : Unpaid r m j := (mem_nodes_iff_unpaid hm).mp
      (flowGraph_closed hvalid hm i ((mem_nodes_iff_unpaid hm).mpr hi) j hj)
    -- a target before the first statement would be taken for the first one
    obtain ⟨t, ht, rfl⟩ := List.mem_map.mp (List.mem_filter.mp hj).1
    refine ⟨hi, hunpaid, ?_⟩
    rwa [Int.toNat_of_nonneg (nonneg_of_mem_targets hvalid ht)]
  · rintro ⟨-, hj, htarget⟩
    exact mem_succ_of_target htarget (mem_nodes_iff.mp ((mem_nodes_iff_unpaid hm).mpr hj)).2

theorem UnpaidStep.source (h : UnpaidStep r m i j) : Unpaid r m i := (unpaidStep_iff.mp h).1

theorem UnpaidStep.target (h : UnpaidStep r m i j) : Unpaid r m j := (unpaidStep_iff.mp h).2.1

/-- The paths of the flow graph from one of its nodes are the sequences of steps without a
withdrawal. -/
theorem reaches_iff (hvalid : r.Valid) (hm : m.Consistent r) (hi : Unpaid r m i) :
    (flowGraph r m).Reaches i j ↔ ReflTransGen (UnpaidStep r m) i j := by
  constructor
  · intro h
    induction h with
    | refl => exact .refl
    | @tail j k hpath hk ih =>
      have hj : Unpaid r m j := (mem_nodes_iff_unpaid hm).mp
        (Graph.Reaches.mem_nodes (flowGraph_closed hvalid hm) hpath
          ((mem_nodes_iff_unpaid hm).mpr hi))
      exact ih.tail ((mem_succ_iff hvalid hm hj).mp hk)
  · intro h
    induction h with
    | refl => exact .refl
    | tail _ hstep ih => exact ih.edge ((mem_succ_iff hvalid hm hstep.source).mpr hstep)

theorem onCycle_iff (hvalid : r.Valid) (hm : m.Consistent r) (hi : Unpaid r m i) :
    (flowGraph r m).OnCycle i ↔ Circular r m i := by
  rw [Graph.OnCycle, Circular, TransGen.head'_iff, TransGen.head'_iff]
  refine exists_congr fun j => ?_
  rw [mem_succ_iff hvalid hm hi]
  exact and_congr_right fun hstep => reaches_iff hvalid hm hstep.target

theorem Circular.unpaid (h : Circular r m i) : Unpaid r m i := by
  obtain ⟨j, hstep, -⟩ := TransGen.head'_iff.mp h
  exact hstep.source

theorem mutual_iff (hvalid : r.Valid) (hm : m.Consistent r) (hi : Unpaid r m i) :
    (flowGraph r m).Mutual i j ↔ Interchangeable r m i j := by
  rw [Graph.Mutual, Interchangeable, reaches_iff hvalid hm hi]
  refine and_congr_right fun hpath => reaches_iff hvalid hm ?_
  rcases ReflTransGen.cases_tail hpath with rfl | ⟨k, -, hstep⟩
  · exact hi
  · exact hstep.target

end steps

/-! ### The reported cycle -/

/-- A fault reports statement `i` and the cycles through it: no lower statement lies on a cycle,
the statements listed in ascending order are those that steps lead to and back from, and the
function is the one that `i` belongs to. -/
structure ReportsLowest (r : Registry) (m : Metadata) (i : Nat) (fault : GasFault) : Prop where
  circular : Circular r m i
  lowest : ∀ {j : Nat}, Circular r m j → i ≤ j
  first : fault.cycle.head? = some (i : Int)
  ascending : fault.cycle.Pairwise (· < ·)
  mem_cycle : ∀ {k : Int}, k ∈ fault.cycle ↔ ∃ j : Nat, (j : Int) = k ∧ Interchangeable r m i j
  owner : ∃ (f : Nat) (function : Function), m.owner? i = some f ∧
    r.program.functions[f]? = some function ∧ fault.function = function.id

/-- The gas check passes exactly the programs in which no statement leads back to itself without a
withdrawal of gas.  Otherwise it reports the lowest statement that does. -/
theorem checkGasUsage_lowestCycle {p : Program} {r : Registry} {m : Metadata}
    (hbuild : Registry.build p = .ok r) (hanalyze : analyze r = .ok m) :
    (checkGasUsage r m = .ok () ↔ ∀ i, ¬ Circular r m i) ∧
      ∀ fault, checkGasUsage r m = .error fault → ∃ i, ReportsLowest r m i fault := by
  have hvalid := (Registry.build_valid hbuild).2
  have hm := analyze_consistent hanalyze
  have hclosed := flowGraph_closed hvalid hm
  cases hcycle : (flowGraph r m).lowestCycle with
  | none =>
    have hcheck : checkGasUsage r m = .ok () := by simp [checkGasUsage, hcycle]
    refine ⟨iff_of_true hcheck fun i hi => ?_, fun fault hfault => ?_⟩
    · exact (Graph.lowestCycle_eq_none_iff hclosed).mp hcycle i
        ((mem_nodes_iff_unpaid hm).mpr hi.unpaid) ((onCycle_iff hvalid hm hi.unpaid).mpr hi)
    · rw [hcheck] at hfault
      cases hfault
  | some cycle =>
    obtain ⟨hsorted, i, hi, hfirst, hcircular, hlowest, hmem⟩ :=
      Graph.lowestCycle_eq_some hclosed hcycle
    have hunpaid := (mem_nodes_iff_unpaid hm).mp hi
    obtain ⟨site, hsite⟩ := Option.isSome_iff_exists.mp hunpaid.reached
    have howner : m.owner? i = some site.owner := by rw [Metadata.owner?, hsite, Option.map_some]
    have hfunction := List.getElem?_eq_getElem (owner_lt_of_analyze hanalyze hsite)
    have hcheck : checkGasUsage r m =
        .error ⟨Ap.functionId r.program site.owner, cycle.map Int.ofNat⟩ := by
      simp [checkGasUsage, hcycle, hfirst, howner]
    refine ⟨iff_of_false (fun hok => ?_) fun hacyclic => ?_, fun fault hfault => ⟨i, ?_⟩⟩
    · rw [hcheck] at hok
      cases hok
    · exact hacyclic i ((onCycle_iff hvalid hm hunpaid).mp hcircular)
    · rw [hcheck] at hfault
      cases hfault
      refine
        { circular := (onCycle_iff hvalid hm hunpaid).mp hcircular
          lowest := fun {j} hj => ?_
          first := by simp [hfirst]
          ascending := List.pairwise_map.mpr (hsorted.imp Int.ofNat_lt.mpr)
          mem_cycle := fun {k} => ?_
          owner := ⟨site.owner, _, howner, hfunction, Ap.functionId_eq hfunction⟩ }
      · exact hlowest j ((mem_nodes_iff_unpaid hm).mpr hj.unpaid)
          ((onCycle_iff hvalid hm hj.unpaid).mpr hj)
      · rw [List.mem_map]
        refine exists_congr fun j => ?_
        rw [hmem, mutual_iff hvalid hm hunpaid, and_comm]
        rfl

/-- Functions `1` and `2` call each other, and function `0` jumps in place. -/
def circles : Program where
  types := []
  libfuncs :=
    [.numbered 0 "jump", .numbered 1 "branch_align",
     .numbered 2 "function_call" [.userFunc { id := 1 }],
     .numbered 3 "function_call" [.userFunc { id := 2 }]]
  statements :=
    [.numbered 1 [] [(.fallthrough, [])],
     .numbered 3 [] [(.fallthrough, [])],
     .ret [],
     .numbered 2 [] [(.fallthrough, [])],
     .ret [],
     .numbered 0 [] [(.statement 5, [])]]
  functions := [.numbered 0 [] [] 5, .numbered 1 [] [] 0, .numbered 2 [] [] 3]

/-- Of the two cycles of `circles` the check reports the lower one, which goes through the calls
and leaves the return in between out. -/
theorem checkGasUsage_lowestCycle_circles :
    ∃ r m i, Registry.build circles = .ok r ∧ analyze r = .ok m ∧
      checkGasUsage r m = .error ⟨{ id := 1 }, [0, 1, 3]⟩ ∧
      (¬ ∀ i, ¬ Circular r m i) ∧ ReportsLowest r m i ⟨{ id := 1 }, [0, 1, 3]⟩ := by
  obtain ⟨r, hbuild, hr⟩ : ∃ r, Registry.build circles = .ok r ∧
      ((analyze r).toOption.any fun m =>
        decide (checkGasUsage r m = .error ⟨{ id := 1 }, [0, 1, 3]⟩)) = true :=
    exists_of_toOption_any (by decide +kernel)
  obtain ⟨m, hanalyze, hm⟩ := exists_of_toOption_any hr
  have hcheck := of_decide_eq_true hm
  obtain ⟨hiff, hreports⟩ := checkGasUsage_lowestCycle hbuild hanalyze
  obtain ⟨i, hi⟩ := hreports _ hcheck
  refine ⟨r, m, i, hbuild, hanalyze, hcheck, fun hacyclic => ?_, hi⟩
  rw [hiff.mpr hacyclic] at hcheck
  cases hcheck

end SierraCasm.Gas
