import SierraCasm.Proofs.Lowering.Invocation

/-! # Cells and epochs

An epoch can be opened again, on every turn of a loop.  A cell of an earlier opening would then be
taken for one of the later, but no such cell is ever alive: the stack cells in the environment of
statement `j` belong to epochs that were opened before `j` (`LoweredProgram.Valid.epochs`), since
each environment comes from a statement with a lower index. -/

namespace SierraCasm.Lowering

open Sierra Concrete

/-! ### Cells of environments -/

/-- A stack cell belongs to an epoch before `n`. -/
def Cell.Before (n : Nat) : Cell → Prop
  | .ap epoch _ => epoch < n
  | .fp _ => True

theorem Cell.Before.mono {c : Cell} {n n' : Nat} (h : c.Before n) (hle : n ≤ n') : c.Before n' := by
  cases c with
  | ap epoch position => exact Nat.lt_of_lt_of_le h hle
  | fp offset => trivial

theorem has_of_takeArgs {env rest : Env} {vars : List VarId} {types : List Ident}
    {refs : List Ref} (h : takeArgs env vars types = .ok (refs, rest)) {c : Cell} :
    (∀ ref ∈ refs, ref.Has c → env.Has c) ∧ (rest.Has c → env.Has c) := by
  obtain ⟨-, hrefs, hrest⟩ := takeArgs_eq_ok h
  refine ⟨fun ref href hc => ?_, ?_⟩
  · obtain ⟨v, hv⟩ := hrefs ref href
    exact ⟨v, ref, hv, hc⟩
  · rintro ⟨v, ref, hv, hc⟩
    exact ⟨v, ref, hrest hv, hc⟩

theorem has_of_bindResults {env next : Env} {vars : List VarId} {refs : List Ref}
    (h : bindResults env vars refs = .ok next) {c : Cell} (hc : next.Has c) :
    env.Has c ∨ ∃ ref ∈ refs, ref.Has c := by
  obtain ⟨v, ref, hv, hc⟩ := hc
  exact (bindResults_eq_ok h hv).imp (fun hv => ⟨v, ref, hv, hc⟩) fun href => ⟨ref, href, hc⟩

theorem has_of_invalidateAp {env : Env} {c : Cell} (hc : env.invalidateAp.Has c) : env.Has c := by
  obtain ⟨v, ref, hv, e, he, hc⟩ := hc
  rw [Env.find?_invalidateAp, Option.map_eq_some_iff] at hv
  obtain ⟨ref, hv, rfl⟩ := hv
  obtain ⟨e, he', rfl⟩ := List.mem_map.mp he
  rw [Expr.invalidateAp] at hc
  split at hc
  · cases hc
  · exact ⟨v, ref, hv, e, he', hc⟩

theorem Brings.has {m : Metadata} {i b : Nat} {rest e : Env} {branch : Branch} {refs : List Ref}
    (h : Brings m i b rest branch refs e) {c : Cell} (hc : e.Has c) :
    rest.Has c ∨ ∃ ref ∈ refs, ref.Has c := by
  obtain ⟨next, after, arrival, hnext, -, -, rfl⟩ := h
  refine has_of_bindResults hnext ?_
  split at hc
  · exact hc
  · exact has_of_invalidateAp hc

/-! ### Function entries -/

theorem find?_foldl_insert {bindings : List (Param × Ref)} {env : Env} {v : VarId} {ref : Ref}
    (h : (bindings.foldl (fun e p => e.insert p.1.var p.2) env).find? v = some ref) :
    env.find? v = some ref ∨ ∃ p ∈ bindings, p.2 = ref := by
  induction bindings generalizing env with
  | nil => exact .inl h
  | cons p bindings ih =>
    rcases ih h with h | ⟨q, hq, hqr⟩
    · by_cases heq : v = p.1.var
      · subst heq
        rw [Env.find?_insert_self] at h
        exact .inr ⟨p, List.mem_cons_self, Option.some.inj h⟩
      · rw [Env.find?_insert_of_ne _ heq] at h
        exact .inl h
    · exact .inr ⟨q, List.mem_cons_of_mem _ hq, hqr⟩

theorem entryEnv_has {r : Registry} {f : Function} {env : Env} (h : entryEnv r f = .ok env)
    {c : Cell} (hc : env.Has c) : ∃ offset, c = .fp offset := by
  obtain ⟨sized, sized', -, -, rfl⟩ := entryEnv_eq_ok h
  obtain ⟨v, ref, hv, hc⟩ := hc
  rcases find?_foldl_insert hv with hv | ⟨⟨param, ref'⟩, hmem, rfl⟩
  · cases hv
  · obtain ⟨k, -, rfl⟩ := has_of_mem_place (List.of_mem_zip hmem).2 hc
    exact ⟨_, rfl⟩

/-! ### Epochs -/

variable {r : Registry} {m : Metadata}

section invoked

variable {envs : EnvTable} {i b : Nat} {inv : Invocation} {site : Ap.Site} {env rest : Env}
  {lib : ConcreteLibfunc} {args : List Ref} {lowered : Lowered} {branch : Branch}

theorem Invoked.valid (hvalid : r.Valid)
    (h : Invoked ⟨r, m⟩ envs i inv site env lib args rest lowered) :
    Registry.InvocationValid r.program.statements.length lib inv := by
  obtain ⟨lib', hlib', hinvocation⟩ := hvalid.invocation h.statement_eq
  obtain rfl := Option.some.inj (h.lib_eq.symm.trans hlib')
  exact hinvocation

theorem Invoked.edge (h : Invoked ⟨r, m⟩ envs i inv site env lib args rest lowered)
    (hb : inv.branches[b]? = some branch) {bsig : BranchSignature}
    (hsig : lib.signature.branches[b]? = some bsig) :
    r.Edge i b lib bsig (branch.target.resolve i).toNat :=
  ⟨inv, branch, h.statement_eq, h.lib_eq, hb, hsig, rfl⟩

/-- The cells that a branch brings to its target were there before or are written by the
invocation. -/
theorem Invoked.has_of_brings (h : Invoked ⟨r, m⟩ envs i inv site env lib args rest lowered)
    {refs : List Ref} (hrefs : lowered.outputs[b]? = some refs) {e : Env}
    (hbrings : Brings m i b rest branch refs e) {c : Cell} (hc : e.Has c) :
    env.Has c ∨ Fresh ⟨r, m⟩ i b site.state lib.signature lib.operation args c := by
  obtain ⟨hfromArgs, hfromRest⟩ := has_of_takeArgs h.args_eq (c := c)
  rcases hbrings.has hc with hc | ⟨ref, href, hc⟩
  · exact .inl (hfromRest hc)
  · refine ((lowerInvocation_eq_ok h.lowered_eq).has hrefs href hc).imp_left ?_
    rintro ⟨arg, harg, hc⟩
    exact hfromArgs arg harg hc

end invoked

theorem lt_length_of_site (hm : m.Consistent r) {j : Nat} {site : Ap.Site}
    (hj : m.site? j = some site) : j < r.program.statements.length := by
  rcases hm.statement hj with ⟨vars, hret⟩ | ⟨inv, lib, hinvoke, -⟩
  · exact (List.getElem?_eq_some_iff.mp hret).1
  · exact (List.getElem?_eq_some_iff.mp hinvoke).1

/-- The stack cells alive at a statement belong to epochs opened before it, and the epoch it is in
was opened before it or at it. -/
theorem LoweredProgram.Valid.epochs (hvalid : r.Valid) (hm : m.Consistent r) {l : LoweredProgram}
    (hl : l.Valid ⟨r, m⟩) {j : Nat} {env : Env} {site : Ap.Site} (henv : l.envs.at? j = some env)
    (hsite : m.site? j = some site) :
    site.state.epoch ≤ ApState.epochAtJoin j ∧
      ∀ c, env.Has c → c.Before (ApState.epochAtJoin j) := by
  induction j using Nat.strongRecOn generalizing env site with
  | ind j ih =>
    rcases hl.origin henv with ⟨f, hf, rfl, hentry⟩ | hbrought
    · obtain ⟨k, hk⟩ := List.getElem?_of_mem hf
      obtain ⟨site', hsite', -, hstate⟩ := hm.entry hk (lt_length_of_site hm hsite)
      obtain rfl := Option.some.inj (hsite.symm.trans hsite')
      refine ⟨?_, fun c hc => ?_⟩
      · rcases hstate with hstate | hstate
        · rw [hstate]
          exact Nat.zero_le _
        · rw [hstate]
          exact Nat.le_refl _
      · obtain ⟨offset, rfl⟩ := entryEnv_has hentry hc
        trivial
    · obtain ⟨i, b, inv, site', env', lib, args, rest, lowered, branch, refs, hinvoked, hb, hrefs,
        hlt, htarget, hbrings⟩ := hbrought
      obtain ⟨hepoch, hcells⟩ := ih i hlt hinvoked.env_eq hinvoked.site_eq
      have hsig := List.getElem?_eq_getElem (l := lib.signature.branches) (i := b) (by
        rw [← (hinvoked.valid hvalid).branches]
        exact (List.getElem?_eq_some_iff.mp hb).1)
      obtain ⟨next, target, hnext, heffect, hsite', -, hstate⟩ :=
        hm.edge hinvoked.site_eq (hinvoked.edge hb hsig)
      rw [htarget] at hsite' hstate
      obtain rfl := Option.some.inj (hsite.symm.trans hsite')
      have hafter : m.branchState? i b = some next := by
        rw [Metadata.branchState?, hinvoked.site_eq, Option.bind_some, hnext]
      have hnextEpoch : next.epoch < ApState.epochAtJoin j := by
        have := heffect.epoch
        unfold ApState.epochAtJoin ApState.epochAfter at *
        omega
      have hlt' : ApState.epochAtJoin i < ApState.epochAtJoin j := by
        unfold ApState.epochAtJoin
        omega
      refine ⟨?_, fun c hc => ?_⟩
      · rcases hstate with hstate | hstate
        · rw [hstate]
          exact Nat.le_of_lt hnextEpoch
        · rw [hstate]
          exact Nat.le_refl _
      · rcases hinvoked.has_of_brings hrefs hbrings hc with hc | hfresh
        · exact (hcells c hc).mono (Nat.le_of_lt hlt')
        · cases hfresh with
          | pushed _ => exact Nat.lt_of_le_of_lt hepoch hlt'
          | result _ _ hafter' _ =>
            rw [hafter] at hafter'
            cases hafter'
            exact hnextEpoch

end SierraCasm.Lowering
