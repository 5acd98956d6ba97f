import SierraCasm.Proofs.Lowering.Simulation

/-! # Epochs that open again

Epochs are numbered by statements, so a loop opens the same epoch on every turn.  A stack cell of an
earlier turn must then not pass for one of the present turn.  It never does: nothing that moves with
`ap` is alive at a join that opens an epoch, nothing of the epoch that a statement opens is alive at
the statement, and all branches to a statement bring the same environment
(`epochsApart_of_compile`).  So while a stack cell is alive, the last opening of its epoch stays the
one that its position counts from (`Alive.lastOpening_append`). -/

namespace SierraCasm

open Sierra Concrete

theorem Ap.Run.reached {r : Registry} {m : Metadata} (hm : m.Consistent r) {f : Nat}
    {trace : List (Nat × Int)} (h : Ap.Run r f trace) :
    ∀ x ∈ trace, ∃ site, m.site? x.1 = some site := by
  induction h with
  | start hfunction hlt =>
    obtain ⟨site, hsite, -⟩ := hm.entry hfunction hlt
    simpa using ⟨site, hsite⟩
  | step _ hedge _ ih | call _ hedge _ _ _ _ ih _ =>
    obtain ⟨site, hsite⟩ := ih _ List.mem_cons_self
    obtain ⟨-, target, -, -, htarget, -⟩ := hm.edge hsite hedge
    exact List.forall_mem_cons.mpr ⟨⟨target, htarget⟩, ih⟩

namespace Lowering

/-! ### What moves with `ap` -/

theorem Expr.usesAp_eq_any (e : Expr) : e.usesAp = e.locations.any Cell.usesAp := by
  cases e with
  | deref c | doubleDeref c _ => simp [Expr.usesAp, Expr.locations]
  | immediate _ | lost => rfl
  | binary _ left right => cases right <;> simp [Expr.usesAp, Expr.locations, Operand.usesAp]

theorem Expr.usesAp_invalidateAp (e : Expr) : e.invalidateAp.usesAp = false := by
  rw [Expr.invalidateAp]
  split
  · rfl
  · rename_i h
    simpa using h

theorem Expr.invalidateAp_eq_self {e : Expr} (h : e.usesAp = false) : e.invalidateAp = e := by
  rw [Expr.invalidateAp, h]
  rfl

/-- Nothing in an environment moves with `ap`. -/
def Env.Still (env : Env) : Prop :=
  ∀ ⦃v : VarId⦄ ⦃ref : Ref⦄, env.find? v = some ref → ∀ e ∈ ref.cells, e.usesAp = false

/-- What does not move with `ap` lies below `fp`. -/
theorem Env.Still.exists_fp {env : Env} (h : env.Still) {c : Cell} (hc : env.Has c) :
    ∃ offset, c = .fp offset := by
  obtain ⟨v, ref, hv, e, he, hc⟩ := hc
  have hstill := h hv e he
  rw [Expr.usesAp_eq_any, List.any_eq_false] at hstill
  cases c with
  | ap epoch position => exact absurd rfl (hstill _ hc)
  | fp offset => exact ⟨offset, rfl⟩

theorem Env.still_invalidateAp (env : Env) : env.invalidateAp.Still := by
  intro v ref hv e he
  rw [Env.find?_invalidateAp, Option.map_eq_some_iff] at hv
  obtain ⟨ref, -, rfl⟩ := hv
  obtain ⟨e, -, rfl⟩ := List.mem_map.mp he
  exact e.usesAp_invalidateAp

/-- Two environments bind the same variables, to the same cells and with types of the same
number. -/
def Env.Agrees (env env' : Env) : Prop :=
  ∀ v, Option.Rel (fun ref ref' : Ref => ref.type.id = ref'.type.id ∧ ref.cells = ref'.cells)
    (env.find? v) (env'.find? v)

theorem Env.agrees_of_same {env env' : Env} (h : env.same env' = true) : env.Agrees env' := by
  intro v
  have hv := Env.find?_of_same h v
  generalize env.find? v = ref, env'.find? v = ref' at hv ⊢
  cases hv with
  | none => exact .none
  | some hsame =>
    rw [Ref.same, Bool.and_eq_true, Ident.same_iff, beq_iff_eq] at hsame
    exact .some hsame

/-- What agrees with an environment in which nothing moves with `ap` does not lose anything where
an epoch ends. -/
theorem Env.Agrees.invalidateAp {env next : Env} (h : env.Agrees next) (hstill : env.Still) :
    env.Agrees next.invalidateAp := by
  intro v
  have hv := h v
  rw [Env.find?_invalidateAp]
  cases href : env.find? v with
  | none =>
    rw [href] at hv
    cases hnext : next.find? v <;> rw [hnext] at hv <;> cases hv
    exact .none
  | some ref =>
    rw [href] at hv
    cases hnext : next.find? v <;> rw [hnext] at hv <;> cases hv
    rename_i ref' hagrees
    refine .some ⟨hagrees.1, ?_⟩
    have hsame : ref'.cells.map Expr.invalidateAp = ref'.cells := by
      rw [← hagrees.2]
      exact (List.map_congr_left fun e he =>
        Expr.invalidateAp_eq_self (hstill href e he)).trans (List.map_id _)
    rw [Ref.invalidateAp, hsame]
    exact hagrees.2

/-! ### Branches -/

/-- Branch `b` of statement `i` binds its results, which gives `next`, and brings to statement `j`
what is left of that where the epochs differ. -/
inductive PassesOn (ctx : Context) (envs : EnvTable) (i b j : Nat) (next : Env) : Env → Prop
  | mk {inv : Invocation} {site : Ap.Site} {env rest : Env} {lib : ConcreteLibfunc}
      {args refs : List Ref} {lowered : Lowered} {branch : Branch} {after arrival : ApState} :
      Invoked ctx envs i inv site env lib args rest lowered → inv.branches[b]? = some branch →
      lowered.outputs[b]? = some refs → (branch.target.resolve i).toNat = j →
      bindResults rest branch.results refs = .ok next →
      ctx.metadata.branchState? i b = some after → ctx.metadata.state? j = some arrival →
      PassesOn ctx envs i b j next
        (if after.epoch = arrival.epoch then next else next.invalidateAp)

/-- The cell is in the environment of statement `i`. -/
def Alive (l : LoweredProgram) (c : Cell) (i : Nat) : Prop :=
  ∃ env, l.envs.at? i = some env ∧ env.Has c

/-- No stack cell that is alive is of an epoch that opens where it is alive. -/
structure LoweredProgram.EpochsApart (r : Registry) (m : Metadata) (l : LoweredProgram) :
    Prop where
  /-- every statement has an environment and a position -/
  reached : ∀ {j : Nat}, j < r.program.statements.length →
    ∃ env site, l.envs.at? j = some env ∧ m.site? j = some site
  /-- at a join everything that moved with `ap` is lost -/
  join : ∀ {j : Nat} {env : Env} {s : ApState}, l.envs.at? j = some env →
    m.state? j = some s → s.epoch = ApState.epochAtJoin j → env.Still
  /-- where a branch opens an epoch, no cell of it is alive yet -/
  opened : ∀ {j b : Nat} {env : Env} {after : ApState} (position : Int64),
    l.envs.at? j = some env → m.branchState? j b = some after →
    after.epoch = ApState.epochAfter j → ¬ env.Has (.ap (ApState.epochAfter j) position)
  /-- every branch brings the environment of its target -/
  edge : ∀ {i b j : Nat} {lib : ConcreteLibfunc} {sig : BranchSignature}, r.Edge i b lib sig j →
    ∃ next e env s, PassesOn ⟨r, m⟩ l.envs i b j next e ∧ l.envs.at? j = some env ∧
      env.Agrees e ∧ m.state? j = some s ∧
      (s.epoch = ApState.epochAtJoin j → env.Agrees next.invalidateAp)
  /-- on a run, the epoch of a stack cell does not open again while the cell is alive -/
  run : ∀ {f i epoch : Nat} {position : Int64} {a : Int} {recent past : List (Nat × Int)},
    Ap.Run r f (recent ++ (i, a) :: past) → Alive l (.ap epoch position) i →
    (∀ x ∈ recent, Alive l (.ap epoch position) x.1) →
    Ap.lastOpening epoch (recent ++ (i, a) :: past) = Ap.lastOpening epoch ((i, a) :: past)

section valid

variable {r : Registry} {m : Metadata} {l : LoweredProgram}

/-- Every statement is lowered from an environment and a position. -/
theorem LoweredProgram.Valid.reached (hl : l.Valid ⟨r, m⟩) {j : Nat}
    (hj : j < r.program.statements.length) :
    ∃ env site, l.envs.at? j = some env ∧ m.site? j = some site := by
  have hblock : j < l.blocks.length := by
    rw [hl.length_blocks]
    exact hj
  obtain ⟨statement, hstatement⟩ : ∃ statement, r.program.statements[j]? = some statement :=
    ⟨_, List.getElem?_eq_getElem hj⟩
  cases hl.statement (List.getElem?_eq_getElem hblock) hstatement with
  | ret h => exact ⟨_, _, h.env_eq, h.site_eq⟩
  | invoke h => exact ⟨_, _, h.env_eq, h.site_eq⟩

/-- An environment that reaches a join for the first time comes from a function entry or from an
epoch that ends there. -/
theorem LoweredProgram.Valid.still_of_join (hvalid : r.Valid) (hm : m.Consistent r)
    (hl : l.Valid ⟨r, m⟩) {j : Nat} {env : Env} {s : ApState} (henv : l.envs.at? j = some env)
    (hstate : m.state? j = some s) (hjoin : s.epoch = ApState.epochAtJoin j) : env.Still := by
  rcases hl.origin henv with ⟨f, -, -, hentry⟩ | ⟨i, b, inv, site, env', lib, args, rest, lowered,
    branch, refs, hinvoked, hb, -, hlt, htarget, next, after, arrival, -, hafter, harrival, rfl⟩
  · intro v ref hv e he
    rw [Expr.usesAp_eq_any, List.any_eq_false]
    intro c hc
    obtain ⟨offset, rfl⟩ := entryEnv_has hentry ⟨v, ref, hv, e, he, hc⟩
    exact Bool.false_ne_true
  · rw [htarget, hstate] at harrival
    cases harrival
    obtain ⟨hepoch, -⟩ := hl.epochs hvalid hm hinvoked.env_eq hinvoked.site_eq
    obtain ⟨sig, hsig⟩ := (hinvoked.valid hvalid).exists_signature hb
    obtain ⟨after', -, hafter', heffect, -⟩ := hm.edge hinvoked.site_eq (hinvoked.edge hb hsig)
    obtain rfl : after' = after := by
      simpa [Metadata.branchState?, hinvoked.site_eq, hafter'] using hafter
    have hne : after'.epoch ≠ s.epoch := by
      have := heffect.epoch
      unfold ApState.epochAtJoin ApState.epochAfter at *
      omega
    rw [if_neg hne]
    exact next.still_invalidateAp

/-- Every branch of the program brings the environment of its target. -/
theorem LoweredProgram.Valid.passesOn (hl : l.Valid ⟨r, m⟩) {i b j : Nat} {lib : ConcreteLibfunc}
    {sig : BranchSignature} (hedge : r.Edge i b lib sig j) :
    ∃ next e env s, PassesOn ⟨r, m⟩ l.envs i b j next e ∧ l.envs.at? j = some env ∧
      env.Agrees e ∧ m.state? j = some s ∧ (e = next ∨ e = next.invalidateAp) := by
  obtain ⟨inv, site, env', args, rest, lowered, branch, refs, e, env, hinvoked, hb, hrefs, rfl,
    ⟨next, after, arrival, hnext, hafter, harrival, rfl⟩, henv, hsame⟩ := hl.passed hedge
  refine ⟨next, _, env, arrival, .mk hinvoked hb hrefs rfl hnext hafter harrival, henv,
    Env.agrees_of_same hsame, harrival, ?_⟩
  split
  · exact .inl rfl
  · exact .inr rfl

/-- A stack cell that is alive at a statement is of an epoch that was opened before it. -/
theorem Alive.epoch_lt (hvalid : r.Valid) (hm : m.Consistent r) (hl : l.Valid ⟨r, m⟩)
    {i epoch : Nat} {position : Int64} {site : Ap.Site} (hsite : m.site? i = some site)
    (h : Alive l (.ap epoch position) i) : epoch < ApState.epochAtJoin i := by
  obtain ⟨env, henv, hc⟩ := h
  exact (hl.epochs hvalid hm henv hsite).2 _ hc

/-- A step of a run between statements at which a stack cell is alive does not open its epoch. -/
theorem lastOpening_step {i j epoch : Nat} {a a' : Int} {past : List (Nat × Int)}
    (hi : epoch < ApState.epochAtJoin i) (hj : epoch < ApState.epochAtJoin j) :
    Ap.lastOpening epoch ((j, a') :: (i, a) :: past) = Ap.lastOpening epoch ((i, a) :: past) := by
  rw [Ap.lastOpening, if_neg]
  unfold ApState.epochAtJoin ApState.epochAfter at *
  omega

/-- On a run, the epoch of a stack cell does not open again while the cell is alive. -/
theorem Alive.lastOpening_append (hvalid : r.Valid) (hm : m.Consistent r) (hl : l.Valid ⟨r, m⟩)
    {f i epoch : Nat} {position : Int64} {a : Int} {recent past : List (Nat × Int)}
    (hrun : Ap.Run r f (recent ++ (i, a) :: past)) (hi : Alive l (.ap epoch position) i)
    (hrecent : ∀ x ∈ recent, Alive l (.ap epoch position) x.1) :
    Ap.lastOpening epoch (recent ++ (i, a) :: past) = Ap.lastOpening epoch ((i, a) :: past) := by
  have hreached := hrun.reached hm
  clear hrun
  induction recent with
  | nil => rfl
  | cons x recent ih =>
    have ih := ih (fun y hy => hrecent y (List.mem_cons_of_mem _ hy))
      (fun y hy => hreached y (List.mem_cons_of_mem _ hy))
    rw [← ih]
    -- The step to `x` starts at the next statement of `recent`, or at `i`.
    have hbefore : ∀ y ∈ recent ++ [(i, a)], epoch < ApState.epochAtJoin y.1 := by
      intro y hy
      obtain ⟨site, hsite⟩ := hreached y (by simp at hy ⊢; tauto)
      have halive : Alive l (.ap epoch position) y.1 := by
        rcases List.mem_append.mp hy with hy | hy
        · exact hrecent y (List.mem_cons_of_mem _ hy)
        · obtain rfl := List.mem_singleton.mp hy
          exact hi
      exact halive.epoch_lt hvalid hm hl hsite
    obtain ⟨site, hsite⟩ := hreached x List.mem_cons_self
    have hx := (hrecent x List.mem_cons_self).epoch_lt hvalid hm hl hsite
    cases recent with
    | nil => exact lastOpening_step (hbefore _ List.mem_cons_self) hx
    | cons y recent => exact lastOpening_step (hbefore _ List.mem_cons_self) hx

end valid

end Lowering

open Lowering in
/-- In a compiled program no stack cell that is alive is of an epoch that opens where it is
alive. -/
theorem epochsApart_of_compile {p : Program} {r : Registry} {m : Metadata}
    {config : CompileConfig} {out : Casm.Program} (hbuild : Registry.build p = .ok r)
    (hanalyze : analyze r = .ok m) (hcompile : compile r m config = .ok out) :
    ∃ l, lowerProgram ⟨r, m⟩ = .ok l ∧ out = assemble l.blocks ∧ l.EpochsApart r m := by
  obtain ⟨l, hlower, hout⟩ := compile_eq_ok hcompile
  have hvalid := (Registry.build_valid hbuild).2
  have hm := analyze_consistent hanalyze
  have hl := lowerProgram_valid hm hlower
  have hstill : ∀ {j env s}, l.envs.at? j = some env → m.state? j = some s →
      s.epoch = ApState.epochAtJoin j → env.Still := hl.still_of_join hvalid hm
  refine ⟨l, hlower, hout, hl.reached, hstill, ?_, ?_, Alive.lastOpening_append hvalid hm hl⟩
  · intro j b env after position henv hafter _ hc
    obtain ⟨site, hsite, -⟩ := Option.bind_eq_some_iff.mp hafter
    have hlt := Alive.epoch_lt hvalid hm hl hsite ⟨env, henv, hc⟩
    unfold ApState.epochAtJoin ApState.epochAfter at hlt
    omega
  · intro i b j lib sig hedge
    obtain ⟨next, e, env, s, hpasses, henv, hagrees, hstate, he⟩ := hl.passesOn hedge
    refine ⟨next, e, env, s, hpasses, henv, hagrees, hstate, fun hjoin => ?_⟩
    rcases he with rfl | rfl
    · -- A back edge may stay within the epoch of the join, but then it brings nothing to lose.
      exact hagrees.invalidateAp (hstill henv hstate hjoin)
    · exact hagrees

/-- Every turn of the loop joins at statement `1`, which opens an epoch; a value is stored in it. -/
def turns : Program where
  types := [.numbered 0 "felt252", .numbered 1 "NonZero" [.type { id := 0 }]]
  libfuncs :=
    [.numbered 0 "dup" [.type { id := 0 }], .numbered 1 "felt252_is_zero",
     .numbered 2 "store_temp" [.type { id := 0 }], .numbered 3 "drop" [.type { id := 1 }],
     .numbered 4 "drop" [.type { id := 0 }], .numbered 5 "rename" [.type { id := 0 }],
     .numbered 6 "enable_ap_tracking", .numbered 7 "disable_ap_tracking", .numbered 8 "jump"]
  statements :=
    [.numbered 7 [] [(.fallthrough, [])],
     .numbered 6 [] [(.fallthrough, [])],
     .numbered 0 [0] [(.fallthrough, [0, 1])],
     .numbered 1 [0] [(.fallthrough, []), (.statement 6, [2])],
     .numbered 2 [1] [(.fallthrough, [1])],
     .ret [⟨1⟩],
     .numbered 3 [2] [(.fallthrough, [])],
     .numbered 0 [1] [(.fallthrough, [1, 3])],
     .numbered 2 [3] [(.fallthrough, [3])],
     .numbered 4 [3] [(.fallthrough, [])],
     .numbered 5 [1] [(.fallthrough, [0])],
     .numbered 7 [] [(.fallthrough, [])],
     .numbered 8 [] [(.statement 1, [])]]
  functions := [.numbered 0 [0] [0] 0]

open Lowering in
/-- In `turns` a cell of the epoch that opens on every turn is alive at statement `9`. -/
theorem epochsApart_turns :
    ∃ r m out l, Registry.build turns = .ok r ∧ analyze r = .ok m ∧
      compile r m {} = .ok out ∧ lowerProgram ⟨r, m⟩ = .ok l ∧
      m.state? 1 = some (.atJoin 1) ∧
      (m.branchState? 1 0).map (·.epoch) = some (ApState.epochAfter 1) ∧
      ((l.envs.at? 9).bind (·.find? ⟨3⟩)).map (·.cells) =
        some [.deref (.ap (ApState.epochAfter 1) 0)] ∧
      l.EpochsApart r m := by
  obtain ⟨r, hbuild, hr⟩ : ∃ r, Registry.build turns = .ok r ∧
      ((analyze r).toOption.any fun m => (compile r m {}).toOption.any fun _ =>
        decide (m.state? 1 = some (.atJoin 1) ∧
          (m.branchState? 1 0).map (·.epoch) = some (ApState.epochAfter 1)) &&
        (lowerProgram ⟨r, m⟩).toOption.any fun l =>
          decide (((l.envs.at? 9).bind (·.find? ⟨3⟩)).map (·.cells) =
            some [.deref (.ap (ApState.epochAfter 1) 0)])) = true :=
    exists_of_toOption_any (by decide +kernel)
  obtain ⟨m, hanalyze, hm⟩ := exists_of_toOption_any hr
  obtain ⟨out, hcompile, hout⟩ := exists_of_toOption_any hm
  rw [Bool.and_eq_true, decide_eq_true_eq] at hout
  obtain ⟨⟨hjoin, hopened⟩, hl⟩ := hout
  obtain ⟨l, hlower, hcell⟩ := exists_of_toOption_any hl
  rw [decide_eq_true_eq] at hcell
  obtain ⟨l', hlower', -, hapart⟩ := epochsApart_of_compile hbuild hanalyze hcompile
  obtain rfl := Except.ok.inj (hlower.symm.trans hlower')
  exact ⟨r, m, out, l, hbuild, hanalyze, hcompile, hlower, hjoin, hopened, hcell, hapart⟩

end SierraCasm
