import SierraCasm.Proofs.Ap.Reachability
import SierraCasm.Proofs.Lowering.Safety
import SierraCasm.Proofs.Lowering.Simulation

/-! # Statements that lowering calls unreachable

Lowering goes through the statements once, in order.  When it comes to statement `i`, the functions
have been entered and the statements before `i` have passed their environments on, so there is an
environment for `i` if a function starts there or an earlier statement branches to it
(`Registry.Announced`, `Pass.exists_env_iff`).  If there is none, lowering says that the statement
is unreachable.  That is wrong for a statement which is only reached by a jump back to it from a
statement further on (`unreachable_of_compile`).

A jump back always meets an environment, since the statements up to the jump have theirs.  So the
defect for a jump back to a statement without references is never found. -/

namespace SierraCasm

open Sierra Concrete

/-! ### Reaching a statement -/

namespace Registry

variable {r : Registry} {f i : Nat}

/-- A function starts at statement `j`, or a statement before `k` branches to it. -/
def Announced (r : Registry) (k j : Nat) : Prop :=
  (∃ f ∈ r.program.functions, f.entry.toNat = j) ∨ ∃ i b lib sig, i < k ∧ r.Edge i b lib sig j

/-- A statement that can be reached without being announced is branched to from further on. -/
theorem CanReach.exists_back (h : r.CanReach f i) (hi : ¬ r.Announced i i) :
    ∃ j b lib sig, i < j ∧ r.CanReach f j ∧ r.Edge j b lib sig i := by
  induction h with
  | entry hfunction _ => exact absurd (.inl ⟨_, List.mem_of_getElem? hfunction, rfl⟩) hi
  | @branch i b target lib sig hreach hedge ih =>
    rcases Nat.lt_trichotomy i target with hlt | rfl | hlt
    · exact absurd (.inr ⟨i, b, lib, sig, hlt, hedge⟩) hi
    · exact ih hi
    · exact ⟨i, b, lib, sig, hlt, hreach, hedge⟩

end Registry

namespace Lowering

/-! ### Defects about the way to a statement -/

/-- The defects that are about how a statement is reached. -/
def Defect.isArrival : Defect → Bool
  | .unreachable | .noReferences _ => true
  | _ => false

/-- A computation that does not stop because of how a statement is reached. -/
def Silent {α : Type} (x : Except Defect α) : Prop := StopsOnly (fun d => d.isArrival = false) x

theorem Defect.isArrival_of_isLocal {d : Defect} (h : d.isLocal = true) : d.isArrival = false := by
  cases d with
  | unreachable | noReferences => cases h
  | _ => rfl

theorem Local.silent {α : Type} {x : Except Defect α} (h : Local x) : Silent x :=
  fun d hd => Defect.isArrival_of_isLocal (h d hd)

theorem silent_lowerReturn (f : Function) (s : ApState) (e : Env) (vars : List VarId) :
    Silent (lowerReturn f s e vars) := by
  refine StopsOnly.bind (.require rfl) fun _ _ => (local_takeArgs _ _ _).silent.bind fun _ _ => ?_
  exact StopsOnly.bind (.require rfl) fun _ _ => (local_checkOnTop _ _ _).silent.bind fun _ _ => .ok

/-! ### The environments that the pass has brought -/

section pass

variable {r : Registry} {m : Metadata} {i j k : Nat} {table : EnvTable}

theorem Pass.lt_of_state (hm : m.Consistent r) (h : Pass ⟨r, m⟩ k table) {s : ApState}
    (hs : m.state? j = some s) : j < table.length := by
  obtain ⟨site, hsite, -⟩ := Option.map_eq_some_iff.mp hs
  rw [(h.grounded hm).2]
  exact lt_length_of_site hm hsite

theorem StatementLowered.exists_env {ctx : Context} {envs : EnvTable} {block : List Code}
    {statement : Statement} (h : StatementLowered ctx envs i block statement) :
    ∃ e, envs.at? i = some e := by
  cases h with
  | ret hreturned => exact ⟨_, hreturned.env_eq⟩
  | invoke hinvoked => exact ⟨_, hinvoked.env_eq⟩

theorem StatementLowered.exists_target {envs : EnvTable} {block : List Code}
    {statement : Statement} {b : Nat} {lib : ConcreteLibfunc} {sig : BranchSignature}
    (h : StatementLowered ⟨r, m⟩ envs i block statement)
    (hstatement : r.program.statements[i]? = some statement) (hedge : r.Edge i b lib sig j) :
    ∃ e, envs.at? j = some e := by
  obtain ⟨inv, branch, hinv, hlib, hb, hsig, rfl⟩ := hedge
  obtain rfl := Option.some.inj (hstatement.symm.trans hinv)
  cases h with
  | invoke _ _ hlength hbranch =>
    have hlt := (List.getElem?_eq_some_iff.mp hb).1
    rw [← hlength] at hlt
    obtain ⟨_, existing, -, hat, -⟩ := hbranch hb (List.getElem?_eq_getElem hlt)
    exact ⟨existing, hat⟩

/-- When the pass comes to statement `k`, the statements before it have environments, and so have
all statements that are announced. -/
theorem Pass.exists_env (hm : m.Consistent r) (h : Pass ⟨r, m⟩ k table) :
    (∀ j < k, ∃ e, table.at? j = some e) ∧
      ∀ j < r.program.statements.length, r.Announced k j → ∃ e, table.at? j = some e := by
  induction h with
  | start htable =>
    obtain ⟨-, hentries, -⟩ := enterFunctions_eq_ok (entries_distinct hm) htable
    refine ⟨fun j hj => absurd hj (Nat.not_lt_zero j), ?_⟩
    rintro j hj (⟨f, hf, rfl⟩ | ⟨i, b, lib, sig, hlt, -⟩)
    · obtain ⟨e, -, he⟩ := hentries f hf (by rwa [List.length_map])
      exact ⟨e, he⟩
    · exact absurd hlt (Nat.not_lt_zero i)
  | @next k statement block table table' hpass hstatement hlower ih =>
    obtain ⟨hbefore, hannounced⟩ := ih
    obtain ⟨hkeeps, -, hlowered, -⟩ :=
      lowerStatement_eq_ok hstatement (hpass.lt_of_state hm) hlower
    have hold : ∀ {j}, (∃ e, table.at? j = some e) → ∃ e, table'.at? j = some e := by
      rintro j ⟨e, he⟩
      exact ⟨e, hkeeps he⟩
    refine ⟨fun j hj => ?_, ?_⟩
    · rcases Nat.lt_succ_iff_lt_or_eq.mp hj with hlt | rfl
      · exact hold (hbefore j hlt)
      · exact hlowered.exists_env
    · rintro j hj (hentry | ⟨i, b, lib, sig, hi, hedge⟩)
      · exact hold (hannounced j hj (.inl hentry))
      · rcases Nat.lt_succ_iff_lt_or_eq.mp hi with hlt | rfl
        · exact hold (hannounced j hj (.inr ⟨i, b, lib, sig, hlt, hedge⟩))
        · exact hlowered.exists_target hstatement hedge

/-- An environment was announced, and its statement can be reached. -/
theorem EnvTable.Grounded.announced (hvalid : r.Valid) (h : table.Grounded ⟨r, m⟩)
    {e : Env} (hj : table.at? j = some e) : r.Announced j j := by
  rcases h hj with ⟨f, hf, hentry, -⟩ | ⟨i, b, inv, site, env, lib, args, rest, lowered, branch,
    refs, hinvoked, hb, -, hlt, rfl, -⟩
  · exact .inl ⟨f, hf, hentry⟩
  · obtain ⟨sig, hsig⟩ := (hinvoked.valid hvalid).exists_signature hb
    exact .inr ⟨i, b, lib, sig, hlt, hinvoked.edge hb hsig⟩

theorem EnvTable.Grounded.exists_site (hvalid : r.Valid) (hm : m.Consistent r)
    (h : table.Grounded ⟨r, m⟩) (hlength : table.length = r.program.statements.length)
    {e : Env} (hj : table.at? j = some e) : ∃ site, m.site? j = some site := by
  have hlt := hlength ▸ EnvTable.lt_of_at? hj
  rcases h hj with ⟨f, hf, rfl, -⟩ | ⟨i, b, inv, site, env, lib, args, rest, lowered, branch,
    refs, hinvoked, hb, -, -, rfl, -⟩
  · obtain ⟨k, hk⟩ := List.getElem?_of_mem hf
    obtain ⟨site, hsite, -⟩ := hm.entry hk hlt
    exact ⟨site, hsite⟩
  · obtain ⟨sig, hsig⟩ := (hinvoked.valid hvalid).exists_signature hb
    obtain ⟨-, site', -, -, hsite', -⟩ := hm.edge hinvoked.site_eq (hinvoked.edge hb hsig)
    exact ⟨site', hsite'⟩

/-- When the pass comes to a statement there is an environment for it if it is announced. -/
theorem Pass.exists_env_iff (hvalid : r.Valid) (hm : m.Consistent r) (h : Pass ⟨r, m⟩ k table)
    (hk : k < r.program.statements.length) :
    (∃ e, table.at? k = some e) ↔ r.Announced k k := by
  refine ⟨?_, (h.exists_env hm).2 k hk⟩
  rintro ⟨e, he⟩
  exact (h.grounded hm).1.announced hvalid he

end pass

/-! ### Faults -/

section faults

variable {r : Registry} {m : Metadata} {i b : Nat} {rest : Env} {table : EnvTable}

/-- A branch that leads back meets an environment if all statements so far have one. -/
theorem FlowFails.silent {branch : Branch} {refs : List Ref} {fault : Fault}
    (hbefore : ∀ j ≤ i, ∃ e, table.at? j = some e)
    (h : FlowFails m i b rest branch refs table fault) : fault.defect.isArrival = false := by
  cases h with
  | results hdefect => exact (local_bindResults _ _ _).silent _ hdefect
  | unrecorded | inconsistent => rfl
  | noReferences hnone hle =>
    obtain ⟨e, he⟩ := hbefore _ hle
    rw [hnone] at he
    cases he

/-- Lowering a statement stops because of how it is reached only if there is no environment for
it. -/
theorem lowerStatement_arrival (hvalid : r.Valid) (hm : m.Consistent r)
    (hpass : Pass ⟨r, m⟩ i table) {statement : Statement}
    (hstatement : r.program.statements[i]? = some statement) :
    StopsOnly (fun fault => fault.defect.isArrival = false ∨
        (fault = ⟨i, .unreachable⟩ ∧ ¬ ∃ e, table.at? i = some e))
      (lowerStatement ⟨r, m⟩ i statement table) := by
  obtain ⟨hgrounded, hlength⟩ := hpass.grounded hm
  intro fault herror
  cases lowerStatement_eq_error hstatement herror with
  | unreached hnone =>
    refine .inr ⟨rfl, ?_⟩
    rintro ⟨e, he⟩
    obtain ⟨site, hsite⟩ := hgrounded.exists_site hvalid hm hlength he
    rcases hnone with hnone | hnone
    · cases hnone.symm.trans hsite
    · cases hnone.symm.trans he
  | ownerless | undeclared | branches => exact .inl rfl
  | ret _ _ _ hret => exact .inl (silent_lowerReturn _ _ _ _ _ hret)
  | args _ hargs => exact .inl ((local_takeArgs _ _ _).silent _ hargs)
  | lowering _ _ _ _ hlower => exact .inl ((local_lowerInvocation _ _ _).silent _ hlower)
  | branch hinvoked _ _ hflowed hfails =>
    -- The environments that have arrived stay while the branches before are passed on.
    refine .inl (hfails.silent fun j hj => ?_)
    obtain ⟨e, he⟩ : ∃ e, table.at? j = some e := by
      rcases Nat.lt_or_eq_of_le hj with hlt | rfl
      · exact (hpass.exists_env hm).1 j hlt
      · exact ⟨_, hinvoked.env_eq⟩
    exact ⟨e, (flowAll_eq_ok (hpass.lt_of_state hm) hflowed).keeps he⟩

/-- Lowering stops because of how a statement is reached only at a statement that is not
announced. -/
theorem lowerProgram_arrival (hvalid : r.Valid) (hm : m.Consistent r) {fault : Fault}
    (h : lowerProgram ⟨r, m⟩ = .error fault) (hfault : fault.defect.isArrival = true) :
    ∃ i < r.program.statements.length, fault = ⟨i, .unreachable⟩ ∧ ¬ r.Announced i i := by
  refine stopsOnly_lowerProgram (P := fun fault => fault.defect.isArrival = true →
    ∃ i < r.program.statements.length, fault = ⟨i, .unreachable⟩ ∧ ¬ r.Announced i i)
    ?_ ?_ fault h hfault
  · intro fault hlocal hfault
    rw [Defect.isArrival_of_isLocal hlocal] at hfault
    cases hfault
  · intro k table statement hpass hstatement fault hlower hfault
    have hk := (List.getElem?_eq_some_iff.mp hstatement).1
    rcases lowerStatement_arrival hvalid hm hpass hstatement fault hlower with
      hsilent | ⟨rfl, hnone⟩
    · rw [hsilent] at hfault
      cases hfault
    · exact ⟨k, hk, rfl, mt (hpass.exists_env_iff hvalid hm hk).mpr hnone⟩

end faults

end Lowering

/-- In a program that was analyzed, lowering calls a statement unreachable if no function starts
there and no earlier statement branches to it.  Such a statement can be reached if a statement
further on that can be reached branches back to it, and only then.  There is no such statement in a
program that compiles, and compilation never stops at a jump back to a statement without
references. -/
theorem unreachable_of_compile {p : Program} {r : Registry} {m : Metadata}
    (hbuild : Registry.build p = .ok r) (hanalyze : analyze r = .ok m) (config : CompileConfig) :
    (∀ i, compile r m config = .error (.lowering ⟨i, .unreachable⟩) →
      i < r.program.statements.length ∧ ¬ r.Announced i i ∧
        ((∃ f, r.CanReach f i) ↔
          ∃ f j b lib sig, i < j ∧ r.CanReach f j ∧ r.Edge j b lib sig i)) ∧
      (∀ out, compile r m config = .ok out → ∀ i < r.program.statements.length, r.Announced i i) ∧
      ∀ i j, compile r m config ≠ .error (.lowering ⟨i, .noReferences j⟩) := by
  have hvalid := (Registry.build_valid hbuild).2
  have hm := analyze_consistent hanalyze
  refine ⟨fun i hcompile => ?_, fun out hcompile i hi => ?_, fun i j hcompile => ?_⟩
  · obtain ⟨i', hi, hfault, hannounced⟩ :=
      Lowering.lowerProgram_arrival hvalid hm (compile_eq_lowering_iff.mp hcompile).2 rfl
    cases hfault
    refine ⟨hi, hannounced, ?_, ?_⟩
    · rintro ⟨f, hreach⟩
      exact ⟨f, hreach.exists_back hannounced⟩
    · rintro ⟨f, j, b, lib, sig, -, hreach, hedge⟩
      exact ⟨f, hreach.branch hedge⟩
  · obtain ⟨l, hlower, -⟩ := compile_eq_ok hcompile
    have hpass := Lowering.Pass.of_lowerProgram hlower
    obtain ⟨e, he⟩ := (hpass.exists_env hm).1 i hi
    exact (hpass.grounded hm).1.announced hvalid he
  · obtain ⟨i', -, hfault, -⟩ :=
      Lowering.lowerProgram_arrival hvalid hm (compile_eq_lowering_iff.mp hcompile).2 rfl
    cases hfault

/-- A function starts at its second statement and jumps back to the first one, where it returns. -/
def returnsBefore : Program where
  types := []
  libfuncs := [.numbered 0 "jump"]
  statements := [.ret [], .numbered 0 [] [(.statement 0, [])]]
  functions := [.numbered 0 [] [] 1]

theorem compile_returnsBefore :
    ∃ r m site, Registry.build returnsBefore = .ok r ∧ analyze r = .ok m ∧
      m.site? 0 = some site ∧ compile r m {} = .error (.lowering ⟨0, .unreachable⟩) := by
  obtain ⟨r, hbuild, hr⟩ : ∃ r, Registry.build returnsBefore = .ok r ∧
      ((analyze r).toOption.any fun m => (m.site? 0).isSome &&
        decide (compile r m {} = .error (.lowering ⟨0, .unreachable⟩))) = true :=
    exists_of_toOption_any (by decide +kernel)
  obtain ⟨m, hanalyze, hm⟩ := exists_of_toOption_any hr
  rw [Bool.and_eq_true, decide_eq_true_eq] at hm
  obtain ⟨site, hsite⟩ := Option.isSome_iff_exists.mp hm.1
  exact ⟨r, m, site, hbuild, hanalyze, hsite, hm.2⟩

/-- The first statement of `returnsBefore` is called unreachable; it is not announced, and a
statement further on jumps back to it. -/
theorem unreachable_returnsBefore :
    ∃ r m, Registry.build returnsBefore = .ok r ∧ analyze r = .ok m ∧
      compile r m {} = .error (.lowering ⟨0, .unreachable⟩) ∧ ¬ r.Announced 0 0 ∧
      ∃ f j b lib sig, 0 < j ∧ r.CanReach f j ∧ r.Edge j b lib sig 0 := by
  obtain ⟨r, m, site, hbuild, hanalyze, hsite, hcompile⟩ := compile_returnsBefore
  obtain ⟨-, hannounced, hreach⟩ := (unreachable_of_compile hbuild hanalyze {}).1 0 hcompile
  exact ⟨r, m, hbuild, hanalyze, hcompile, hannounced,
    hreach.mp ⟨_, Ap.canReach_of_site hanalyze hsite⟩⟩

/-- The function of `returnsBefore` can reach the statement that is called unreachable. -/
theorem canReach_unreachable_returnsBefore :
    ∃ r m f, Registry.build returnsBefore = .ok r ∧ analyze r = .ok m ∧
      compile r m {} = .error (.lowering ⟨0, .unreachable⟩) ∧
      Lowering.Defect.unreachable.message = "statement is unreachable" ∧ r.CanReach f 0 := by
  obtain ⟨r, m, site, hbuild, hanalyze, hsite, hcompile⟩ := compile_returnsBefore
  exact ⟨r, m, _, hbuild, hanalyze, hcompile, rfl, Ap.canReach_of_site hanalyze hsite⟩

end SierraCasm
