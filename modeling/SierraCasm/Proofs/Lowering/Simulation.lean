import SierraCasm.Compile
import SierraCasm.Proofs.Lowering.Calls

/-! # The compiled program executes the source

`Matches` relates a state of the machine to a state of an execution: the machine is at the code of
the statement that comes next, the variables have their values in the cells that the environment of
the statement gives them, and the callers are on the stack.  The block of a statement leads from one
such state to the next (`Compiled.step`): an operation by its code, a call and a return by the
calling convention.  So a run of the machine follows an execution of the source from block to block
(`Compiled.follows`).  The main statement is about the whole compiler: every run of a compiled
program from the entry of a function follows an execution (`exists_execution_of_run`). -/

namespace SierraCasm

open Sierra Concrete Casm

/-- Every function that is called has a body. -/
def Registry.CalleesHaveBodies (r : Registry) : Prop :=
  ∀ {i : Nat} {inv : Invocation} {lib : ConcreteLibfunc} {callee : Function},
    r.program.statements[i]? = some (.invoke inv) → r.libfunc? inv.libfunc = some lib →
    lib.operation = .functionCall callee → callee.entry.toNat < r.program.statements.length

namespace Lowering

/-! ### Callers -/

/-- How a run was started: the function that was entered, and where its return leads. -/
structure Start where
  function : Nat
  pc : Felt
  fp : Felt

/-- What the callers of a run of function `g` left on the stack below `fp`. -/
inductive Stack (r : Registry) (m : Metadata) (l : LoweredProgram) (start : Start) (mem : Memory) :
    Nat → Felt → List Frame → Prop
  | bottom {fp : Felt} : mem (fp - 1) = some start.pc → mem (fp - 2) = some start.fp →
      Stack r m l start mem start.function fp []
  | call {g i a : Nat} {fp fp' : Felt} {inv : Invocation} {site : Ap.Site} {env rest : Env}
      {lib : ConcreteLibfunc} {args : List Ref} {lowered : Lowered} {callee : Function}
      {branch : Branch} {store : Store} {callers : List Frame} :
      Invoked ⟨r, m⟩ l.envs i inv site env lib args rest lowered →
      lib.operation = .functionCall callee → r.program.functionIndex? callee.id = some g →
      r.program.functions[g]? = some callee → inv.branches[0]? = some branch →
      rest.Denotes r ⟨site.state, fp - 2, fp', mem⟩ store → Placed site.state (fp - 2) fp' a →
      mem (fp - 1) = some (((Layout.ofBlocks l.blocks).statementAddress (i + 1) : Nat) : Felt) →
      mem (fp - 2) = some fp' → Stack r m l start mem site.owner fp' callers →
      Stack r m l start mem g fp
        (⟨(branch.target.resolve i).toNat, branch.results, store⟩ :: callers)

variable {r : Registry} {m : Metadata} {l : LoweredProgram} {start : Start}

theorem Stack.mono {mem mem' : Memory} (hmem : mem.Keeps mem') {g : Nat} {fp : Felt}
    {callers : List Frame} (h : Stack r m l start mem g fp callers) :
    Stack r m l start mem' g fp callers := by
  induction h with
  | bottom hpc hfp => exact .bottom (hmem hpc) (hmem hfp)
  | call hinvoked hcall hg hcallee hbranch hrest hplaced hpc hfp _ ih =>
    refine .call hinvoked hcall hg hcallee hbranch (hrest.carry hmem fun c _ => ?_) hplaced
      (hmem hpc) (hmem hfp) ih
    exact Cell.carries_of_keeps rfl rfl rfl hmem

/-! ### States -/

/-- The machine is at the code of statement `i`, with the variables and the callers in place. -/
structure StandsAt (r : Registry) (m : Metadata) (l : LoweredProgram) (start : Start) (i : Nat)
    (site : Ap.Site) (env : Env) (a : Nat) (store : Store) (callers : List Frame) (σ : State) :
    Prop where
  site_eq : m.site? i = some site
  env_eq : l.envs.at? i = some env
  pc_eq : σ.pc = ((Layout.ofBlocks l.blocks).statementAddress i : Nat)
  loaded : Loaded (assemble l.blocks) σ.mem
  denotes : env.Denotes r ⟨site.state, σ.ap, σ.fp, σ.mem⟩ store
  placed : Placed site.state σ.ap σ.fp a
  stack : Stack r m l start σ.mem site.owner σ.fp callers

/-- The machine is in a state that an execution of the source is in: at the code of the statement
that comes next, or returned to the start with the results on top of the stack. -/
inductive Matches (r : Registry) (m : Metadata) (l : LoweredProgram) (start : Start) :
    Config → State → Prop
  | running {i a : Nat} {site : Ap.Site} {env : Env} {store : Store} {callers : List Frame}
      {σ : State} : StandsAt r m l start i site env a store callers σ →
      Matches r m l start (.running i store callers) σ
  | finished {f : Function} {values : List Value} {ws : List (Option Felt)} {σ : State} :
      r.program.functions[start.function]? = some f → σ.pc = start.pc → σ.fp = start.fp →
      EncodesAll r σ.mem f.retTypes values ws → Stored σ.mem (σ.ap - (ws.length : Nat)) ws →
      Matches r m l start (.finished values) σ

theorem matches_of_arrives {g i : Nat} {store : Store} {callers : List Frame} {σ : State}
    (hpc : σ.pc = ((Layout.ofBlocks l.blocks).statementAddress i : Nat))
    (hloaded : Loaded (assemble l.blocks) σ.mem) (h : Arrives r m l g i store σ.ap σ.fp σ.mem)
    (hstack : Stack r m l start σ.mem g σ.fp callers) :
    Matches r m l start (.running i store callers) σ := by
  obtain ⟨site, env, a, hsite, rfl, henv, hdenotes, hplaced⟩ := h
  exact .running ⟨hsite, henv, hpc, hloaded, hdenotes, hplaced, hstack⟩

theorem StandsAt.eq_at {i a : Nat} {site : Ap.Site} {env : Env} {store : Store}
    {callers : List Frame} {σ : State} (h : StandsAt r m l start i site env a store callers σ) :
    σ = View.at ⟨site.state, σ.ap, σ.fp, σ.mem⟩
      ((Layout.ofBlocks l.blocks).statementAddress i) := by
  rw [View.at, ← h.pc_eq]

/-- The machine is where the next state of an execution is; statements without code lead on to the
next. -/
def Advances (r : Registry) (m : Metadata) (l : LoweredProgram) (start : Start) (i : Nat)
    (c : Config) (k : Nat) (τ : State) : Prop :=
  ∃ c', Sierra.step r c = some c' ∧ Matches r m l start c' τ ∧
    (k = 0 → ∃ store callers, c' = .running (i + 1) store callers)

section steps

variable {i a : Nat} {inv : Invocation} {site : Ap.Site} {env rest : Env} {lib : ConcreteLibfunc}
  {args : List Ref} {lowered : Lowered} {σ : State} {store : Store} {callers : List Frame}

theorem Compiled.within (h : Compiled r m l)
    (hinvoked : Invoked ⟨r, m⟩ l.envs i inv site env lib args rest lowered) {b : Nat}
    {bsig : BranchSignature} {cells : Int64} (hsig : lib.signature.branches[b]? = some bsig)
    (hcells : bsig.ap = .known cells) :
    ∀ arg ∈ args, ∀ c, arg.Has c → c.Within site.state cells.toInt.toNat := by
  intro arg harg c hc
  obtain ⟨branch, hb⟩ := exists_branch (hinvoked.valid h.valid) hsig
  have hedge := hinvoked.edge hb hsig
  obtain ⟨next, -, hnext, heffect, -⟩ := h.consistent.edge hinvoked.site_eq hedge
  have hmoves : Ap.Moves bsig.ap cells.toInt := by
    rw [hcells]
    exact .known cells
  have hcounts := Ap.counts_of_moves h.noWrap.positions hinvoked.site_eq hedge hmoves hnext heffect
  rw [hcells] at hcounts
  obtain ⟨hexact, hexact'⟩ := h.noWrap.exact hinvoked.env_eq hinvoked.site_eq
    ((has_of_takeArgs hinvoked.args_eq).1 arg harg hc)
  exact hexact.within hcounts (hexact' next (List.mem_of_getElem? hnext))

/-- The code of an invocation is its block, and its branches are passed on. -/
theorem Compiled.passesOn (h : Compiled r m l)
    (hinvoked : Invoked ⟨r, m⟩ l.envs i inv site env lib args rest lowered) :
    l.blocks[i]? = some lowered.code ∧
      ∀ {b branch refs}, inv.branches[b]? = some branch → lowered.outputs[b]? = some refs →
        ∃ e existing, Brings m i b rest branch refs e ∧
          l.envs.at? (branch.target.resolve i).toNat = some existing ∧
          existing.same e = true := by
  have hlt : i < l.blocks.length := by
    rw [h.lowered.length_blocks]
    exact (List.getElem?_eq_some_iff.mp hinvoked.statement_eq).1
  cases h.lowered.statement (List.getElem?_eq_getElem hlt) hinvoked.statement_eq with
  | invoke hinvoked' hcode _ hpasses =>
    obtain rfl := Option.some.inj (hinvoked.site_eq.symm.trans hinvoked'.site_eq)
    obtain rfl := Option.some.inj (hinvoked.env_eq.symm.trans hinvoked'.env_eq)
    obtain rfl := Option.some.inj (hinvoked.lib_eq.symm.trans hinvoked'.lib_eq)
    cases Except.ok.inj (hinvoked.args_eq.symm.trans hinvoked'.args_eq)
    cases Except.ok.inj (hinvoked.lowered_eq.symm.trans hinvoked'.lowered_eq)
    exact ⟨by rw [List.getElem?_eq_getElem hlt, hcode], hpasses⟩

theorem Compiled.step_operation (h : Compiled r m l)
    (hinvoked : Invoked ⟨r, m⟩ l.envs i inv site env lib args rest lowered)
    (hcall : ∀ callee, lib.operation ≠ .functionCall callee)
    (hat : StandsAt r m l start i site env a store callers σ) :
    ∃ k, After (assemble l.blocks) (InBlock l.blocks i) k
      (Advances r m l start i (.running i store callers) k) σ := by
  obtain ⟨hblock, hpasses⟩ := h.passesOn hinvoked
  obtain ⟨values, store', htake, hargs, hrest⟩ := hat.denotes.takeArgs hinvoked.args_eq
  have henters : Enters r m l.blocks ⟨site.state, σ.ap, σ.fp, σ.mem⟩ r.program.statements.length i
      lib inv args values lowered :=
    { types := h.types
      sizes := h.noWrap.sizes
      specialized := h.valid.libfunc hinvoked.lib_eq
      invocation := hinvoked.valid h.valid
      lowers := lowerInvocation_eq_ok hinvoked.lowered_eq
      block := hblock
      loaded := hat.loaded
      params := (takeArgs_eq_ok hinvoked.args_eq).1
      denotes := hargs
      within := h.within hinvoked }
  obtain ⟨k, b, results, heval, hzero, hafter⟩ := henters.exits hcall
  rw [hat.eq_at]
  refine ⟨k, hafter.mono fun τ hleft => ?_⟩
  obtain ⟨branch, bsig, refs, d, hb, hsig, hrefs, hleft⟩ := hleft
  obtain ⟨pc, ap, fp, mem⟩ := τ
  obtain rfl : fp = σ.fp := hleft.fp
  obtain ⟨store'', hbind, harrives⟩ := h.arrives hinvoked hb hsig (hpasses hb hrefs) hrest
    hat.placed
    (Ap.counts_of_moves h.noWrap.positions hinvoked.site_eq (hinvoked.edge hb hsig) hleft.moves)
    hleft.nonneg hleft.ap hleft.mem fun _ hcounts hcarries => hleft.results hcounts hcarries
  refine ⟨_, ?_, matches_of_arrives hleft.pc (hat.loaded.mono hleft.mem) harrives
    (hat.stack.mono hleft.mem), ?_⟩
  · rw [step_of_invoke hinvoked.statement_eq hinvoked.lib_eq htake]
    exact invoke_of_eval hcall heval hb hbind
  · intro hk
    exact ⟨store'', callers, by rw [hzero hk branch hb]⟩

theorem Compiled.step_call (h : Compiled r m l)
    (hinvoked : Invoked ⟨r, m⟩ l.envs i inv site env lib args rest lowered) {callee : Function}
    (hcall : lib.operation = .functionCall callee)
    (hbody : callee.entry.toNat < r.program.statements.length)
    (hat : StandsAt r m l start i site env a store callers σ) :
    After (assemble l.blocks) (InBlock l.blocks i) 1
      (Advances r m l start i (.running i store callers) 1) σ := by
  obtain ⟨hblock, -⟩ := h.passesOn hinvoked
  obtain ⟨values, store', htake, hargs, hrest⟩ := hat.denotes.takeArgs hinvoked.args_eq
  obtain ⟨hsignature, id, hid⟩ := (h.valid.libfunc hinvoked.lib_eq).of_functionCall hcall
  obtain ⟨g, hg, hcallee⟩ := Sierra.Program.functionIndex?_eq hid
  obtain ⟨branch, hb⟩ := exists_branch (hinvoked.valid h.valid) (b := 0)
    (by rw [hsignature]; rfl)
  have hlowers := lowerInvocation_eq_ok hinvoked.lowered_eq
  rw [hcall] at hlowers
  have hparams : List.Forall₂ (fun (ref : Ref) (type : Ident) => ref.type.id = type.id) args
      callee.paramTypes := by
    have := (takeArgs_eq_ok hinvoked.args_eq).1
    rwa [hsignature] at this
  obtain ⟨ws, hencodes, hfits⟩ := encodesAll_of_denotes hparams hargs
  have hlength : ws.length < 2 ^ 63 := by
    have hfit := h.noWrap.params callee (List.mem_of_getElem? hcallee)
    rw [hencodes.size h.types h.noWrap.sizes] at hfit
    omega
  have hcode := codeAt_statement hblock
  cases hlowers with
  | functionCall htop hsized hafter =>
    have hstored := stored_of_checkOnTop htop hfits hlength
    have hnext := statementAddress_succ hblock
    rw [hat.eq_at]
    refine After.call (hcode.fetch_at hat.loaded.codeSize_le) fun mem hmem hfp hreturn => ?_
    have htop : σ.ap + 2 - 2 = σ.ap := add_sub_cancel_right σ.ap 2
    have hbelow : σ.ap + 2 - 1 = σ.ap + 1 := by ring
    have hfp : mem (σ.ap + 2 - 2) = some σ.fp := by
      rw [htop]
      exact hfp
    have hstored : Stored mem (σ.ap + 2 - 2 - (ws.length : Nat)) ws := by
      rw [htop]
      exact hstored.mono hmem
    have hrest : rest.Denotes r ⟨site.state, σ.ap + 2 - 2, σ.fp, mem⟩ store' := by
      rw [htop]
      exact Env.Denotes.carry (V := ⟨site.state, σ.ap, σ.fp, σ.mem⟩) hmem
        (fun c _ => Cell.carries_of_keeps rfl rfl rfl hmem) hrest
    have hplaced : Placed site.state (σ.ap + 2 - 2) σ.fp a := by
      rw [htop]
      exact hat.placed
    have hreturn : mem (σ.ap + 2 - 1) =
        some (((Layout.ofBlocks l.blocks).statementAddress (i + 1) : Nat) : Felt) := by
      rw [hbelow, hnext, Nat.cast_add]
      exact hreturn
    obtain ⟨store'', hbind, harrives⟩ := h.enters hcallee hbody (hencodes.mono hmem) hstored
    refine ⟨_, ?_, matches_of_arrives (add_distance _ _) (hat.loaded.mono hmem) harrives
      (.call hinvoked hcall hg hcallee hb hrest hplaced hreturn hfp (hat.stack.mono hmem)),
      by simp⟩
    rw [step_of_invoke hinvoked.statement_eq hinvoked.lib_eq htake]
    exact invoke_of_call hcall hb hbind

theorem Compiled.step_return (h : Compiled r m l) {vars : List VarId} {f : Function}
    {code : List Code} (hi : r.program.statements[i]? = some (.ret vars))
    (hreturned : Returned ⟨r, m⟩ l.envs i vars site env f code) (hblock : l.blocks[i]? = some code)
    (hat : StandsAt r m l start i site env a store callers σ) :
    After (assemble l.blocks) (InBlock l.blocks i) 1
      (Advances r m l start i (.running i store callers) 1) σ := by
  obtain ⟨rfl, values, store', ws, htake, hencodes, hlength, hstored⟩ :=
    h.returns hreturned hat.denotes
  have hcode := codeAt_statement hblock
  have hstep : Sierra.step r (.running i store callers) = resume values callers :=
    step_of_ret hi htake
  generalize howner : site.owner = g at *
  have hstack := hat.stack
  rw [howner] at hstack
  cases hstack with
  | bottom hpc hfp =>
    rw [hat.eq_at]
    refine After.ret (hcode.fetch_at hat.loaded.codeSize_le) hpc hfp ⟨_, hstep, ?_, by simp⟩
    refine .finished ?_ rfl rfl hencodes hstored
    rw [← howner]
    exact hreturned.function_eq
  | @call _ j _ _ fp _ _ _ _ lib _ _ callee branch store₀ callers hinvoked hcall hg hcallee hb
      hrest hplaced hpc hfp hstack =>
    obtain rfl : f = callee := by
      have hf := hreturned.function_eq
      rw [howner] at hf
      exact Option.some.inj (hf.symm.trans hcallee)
    obtain ⟨-, hpasses⟩ := h.passesOn hinvoked
    have hsignature := ((h.valid.libfunc hinvoked.lib_eq).of_functionCall hcall).1
    have hsig : lib.signature.branches[0]? = some ⟨f.retTypes, .call f.id⟩ := by
      rw [hsignature]
      rfl
    have htarget : (branch.target.resolve j).toNat = j + 1 :=
      target_of_fallthrough (hinvoked.valid h.valid) (by rw [hsignature]; rfl) hb hsig
    have hlowers := lowerInvocation_eq_ok hinvoked.lowered_eq
    rw [hcall] at hlowers
    cases hlowers with
    | functionCall htop hsized hafter =>
      -- The callee ends `a` cells above its `fp`, and that is two cells above the caller's `ap`.
      have hap : σ.ap = σ.fp - 2 + Felt.ofInt (2 + (a : Int)) := by
        rw [hat.placed.1, Felt.ofInt_eq_cast]
        push_cast
        ring
      obtain ⟨store₁, hbind, harrives⟩ := h.arrives hinvoked hb hsig (hpasses hb rfl) hrest hplaced
        (Ap.counts_of_call h.noWrap.positions hinvoked.site_eq
          (hinvoked.edge hb hsig) rfl hg
          (h.change_of_return hat.site_eq howner ⟨vars, hi⟩ hat.placed))
        (by omega) hap σ.mem.keeps_self fun hnext _ _ => by
          obtain rfl := Option.some.inj (hafter.symm.trans hnext)
          rw [hsignature] at hsized
          exact h.results hsized hencodes hlength hstored
      have hresume : resume values
          (⟨(branch.target.resolve j).toNat, branch.results, store₀⟩ :: callers) =
            some (.running (branch.target.resolve j).toNat store₁ callers) := by
        rw [resume, hbind, Option.map_some]
      rw [hat.eq_at]
      refine After.ret (hcode.fetch_at hat.loaded.codeSize_le) hpc hfp
        ⟨_, hstep.trans hresume, ?_, by simp⟩
      exact matches_of_arrives (by rw [htarget]) hat.loaded harrives hstack

theorem Compiled.step (h : Compiled r m l) (hbodies : r.CalleesHaveBodies)
    (hat : StandsAt r m l start i site env a store callers σ) :
    ∃ k, After (assemble l.blocks) (InBlock l.blocks i) k
      (Advances r m l start i (.running i store callers) k) σ := by
  have hlt := lt_length_of_site h.consistent hat.site_eq
  have hlt' : i < l.blocks.length := by
    rw [h.lowered.length_blocks]
    exact hlt
  have hblock := List.getElem?_eq_getElem hlt'
  have hi := List.getElem?_eq_getElem hlt
  generalize r.program.statements[i] = statement at hi
  cases h.lowered.statement hblock hi with
  | ret hreturned =>
    obtain rfl := Option.some.inj (hat.site_eq.symm.trans hreturned.site_eq)
    obtain rfl := Option.some.inj (hat.env_eq.symm.trans hreturned.env_eq)
    exact ⟨1, h.step_return hi hreturned hblock hat⟩
  | @invoke _ _ _ _ lib _ _ hinvoked _ _ _ =>
    obtain rfl := Option.some.inj (hat.site_eq.symm.trans hinvoked.site_eq)
    obtain rfl := Option.some.inj (hat.env_eq.symm.trans hinvoked.env_eq)
    by_cases hcall : ∃ callee, lib.operation = .functionCall callee
    · obtain ⟨callee, hcall⟩ := hcall
      exact ⟨1, h.step_call hinvoked hcall (hbodies hi hinvoked.lib_eq hcall) hat⟩
    · exact h.step_operation hinvoked (fun callee heq => hcall ⟨callee, heq⟩) hat

end steps

/-! ### Runs -/

/-- An execution of the source along a run of the machine of `n` steps: each statement is executed
within its block, and the machine is in the state of the execution before and after it. -/
inductive Follows (r : Registry) (m : Metadata) (l : LoweredProgram) (start : Start) :
    Config → State → Nat → Config → State → Prop
  | stop {c : Config} {σ : State} : Matches r m l start c σ → Follows r m l start c σ 0 c σ
  | step {i k n : Nat} {store : Store} {callers : List Frame} {c c' : Config} {σ σ' σ'' : State} :
      Matches r m l start (.running i store callers) σ →
      Sierra.step r (.running i store callers) = some c →
      Passes (assemble l.blocks) (InBlock l.blocks i) k σ σ' →
      Follows r m l start c σ' n c' σ'' →
      Follows r m l start (.running i store callers) σ (k + n) c' σ''

/-- Where the machine gets in `k` more steps: if the source is at a statement, it has not left the
block of the statement and can go on. -/
def Reaches (l : LoweredProgram) (k : Nat) (σ τ : State) : Config → Prop
  | .running i _ _ => Passes (assemble l.blocks) (InBlock l.blocks i) k σ τ ∧
      InBlock l.blocks i τ ∧ Ready (assemble l.blocks) τ
  | .finished _ => run (assemble l.blocks) k σ = some τ

/-- Every run from a statement follows an execution. -/
theorem Compiled.follows (h : Compiled r m l) (hbodies : r.CalleesHaveBodies) {i a n : Nat}
    {site : Ap.Site} {env : Env} {store : Store} {callers : List Frame} {σ τ : State}
    (hat : StandsAt r m l start i site env a store callers σ)
    (hrun : run (assemble l.blocks) n σ = some τ) :
    ∃ n' k c σ', n' + k = n ∧ Follows r m l start (.running i store callers) σ n' c σ' ∧
      Reaches l k σ' τ c := by
  obtain ⟨k, hafter⟩ := h.step hbodies hat
  rcases hafter.run_cases hrun with
    hinside | ⟨σ', hle, hpasses, ⟨c, hstep, hmatches, hzero⟩, hrest⟩
  · exact ⟨0, n, _, σ, Nat.zero_add n, .stop (.running hat), hinside⟩
  · cases hmatches with
    | @finished _ values _ _ hf hpc hfp hencodes hstored =>
      exact ⟨k + 0, n - k, .finished values, σ', by omega,
        .step (.running hat) hstep hpasses (.stop (.finished hf hpc hfp hencodes hstored)), hrest⟩
    | @running j _ _ _ store' callers' _ hat' =>
      -- A statement without code takes no step of the machine, but leads to a later statement.
      have hdecreases : n - k < n ∨ n - k = n ∧
          r.program.statements.length - j < r.program.statements.length - i := by
        have hlt := lt_length_of_site h.consistent hat.site_eq
        by_cases hk : k = 0
        · obtain ⟨_, _, heq⟩ := hzero hk
          cases heq
          omega
        · omega
      obtain ⟨n', k', c', σ'', hn, hfollows, hreaches⟩ := Compiled.follows h hbodies hat' hrest
      exact ⟨k + n', k', c', σ'', by omega, .step (.running hat) hstep hpasses hfollows, hreaches⟩
termination_by (n, r.program.statements.length - i)
decreasing_by exact Prod.lex_def.mpr hdecreases

/-- The machine is at the entry of function `f`, with its arguments in the cells up to `[fp - 3]`
and the way back in the two cells above them. -/
structure StartsAt (r : Registry) (l : LoweredProgram) (start : Start) (f : Function)
    (args : List Value) (σ : State) : Prop where
  function_eq : r.program.functions[start.function]? = some f
  body : f.entry.toNat < r.program.statements.length
  pc_eq : σ.pc = ((Layout.ofBlocks l.blocks).statementAddress f.entry.toNat : Nat)
  ap_eq : σ.ap = σ.fp
  loaded : Loaded (assemble l.blocks) σ.mem
  args : ∃ ws, EncodesAll r σ.mem f.paramTypes args ws ∧
    Stored σ.mem (σ.fp - 2 - (ws.length : Nat)) ws
  return_eq : σ.mem (σ.fp - 1) = some start.pc
  frame_eq : σ.mem (σ.fp - 2) = some start.fp

theorem StartsAt.standsAt (h : Compiled r m l) {f : Function} {args : List Value} {σ : State}
    (hstart : StartsAt r l start f args σ) :
    ∃ store site env a, Store.empty.bind (f.params.map (·.var)) args = some store ∧
      StandsAt r m l start f.entry.toNat site env a store [] σ := by
  obtain ⟨ws, hencodes, hstored⟩ := hstart.args
  obtain ⟨store, hbind, site, env, a, hsite, howner, henv, hdenotes, hplaced⟩ :=
    h.enters hstart.function_eq hstart.body hencodes hstored
  refine ⟨store, site, env, a, hbind, hsite, henv, hstart.pc_eq, hstart.loaded, ?_, ?_, ?_⟩
  · rw [hstart.ap_eq]
    exact hdenotes
  · rw [hstart.ap_eq]
    exact hplaced
  · rw [howner]
    exact .bottom hstart.return_eq hstart.frame_eq

end Lowering

theorem compile_eq_ok {r : Registry} {m : Metadata} {config : CompileConfig} {out : Casm.Program}
    (h : compile r m config = .ok out) :
    ∃ l, Lowering.lowerProgram ⟨r, m⟩ = .ok l ∧ out = Lowering.assemble l.blocks := by
  unfold compile at h
  split at h
  case' isTrue => obtain ⟨⟨⟩, -, h⟩ := bind_eq_ok.mp h
  all_goals
    obtain ⟨l, hl, h⟩ := bind_eq_ok.mp h
    dsimp only at h
    split at h
    · cases h
    · cases h
      exact ⟨l, mapError_eq_ok.mp hl, rfl⟩

open Lowering in
/-- The compiled program executes the source: in a program in which no number wraps and every
callee has a body, every run of the machine from the entry of a function, of any length, passes
through the blocks of the statements of an execution, in the states that the execution is in, and
ends in the block of the statement that comes next unless the execution is finished. -/
theorem exists_execution_of_run {p : Sierra.Program} {r : Registry} {m : Metadata}
    {config : CompileConfig} {out : Casm.Program} {l : LoweredProgram}
    (hbuild : Registry.build p = .ok r) (hanalyze : analyze r = .ok m)
    (hcompile : compile r m config = .ok out) (hlower : lowerProgram ⟨r, m⟩ = .ok l)
    (hexact : NoWrap r m l) (hbodies : r.CalleesHaveBodies) {start : Start} {f : Function}
    {args : List Value} {σ : State} (hstart : StartsAt r l start f args σ) :
    out = assemble l.blocks ∧
      ∃ store, Store.empty.bind (f.params.map (·.var)) args = some store ∧
        ∀ {n : Nat} {τ : State}, run out n σ = some τ →
          ∃ n' k c σ', n' + k = n ∧
            Follows r m l start (.running f.entry.toNat store []) σ n' c σ' ∧
            Reaches l k σ' τ c := by
  obtain ⟨l', hlower', rfl⟩ := compile_eq_ok hcompile
  obtain rfl := Except.ok.inj (hlower.symm.trans hlower')
  have hconsistent := analyze_consistent hanalyze
  have h : Compiled r m l :=
    ⟨(Registry.build_valid hbuild).2, Registry.build_typesValid hbuild, hconsistent,
      lowerProgram_valid hconsistent hlower, hexact⟩
  obtain ⟨store, site, env, a, hbind, hat⟩ := hstart.standsAt h
  exact ⟨rfl, store, hbind, fun hrun => h.follows hbodies hat hrun⟩

/-- The function counts its argument down to zero, by a constant in memory. -/
def countdown : Sierra.Program where
  types :=
    [.numbered 0 "felt252", .numbered 1 "NonZero" [.type { id := 0 }],
     .numbered 2 "Const" [.type { id := 0 }, .value 1], .numbered 3 "Box" [.type { id := 0 }]]
  libfuncs :=
    [.numbered 0 "dup" [.type { id := 0 }], .numbered 1 "felt252_is_zero",
     .numbered 2 "store_temp" [.type { id := 0 }], .numbered 3 "drop" [.type { id := 1 }],
     .numbered 4 "const_as_box" [.type { id := 2 }, .value 0],
     .numbered 5 "unbox" [.type { id := 0 }], .numbered 6 "felt252_sub",
     .numbered 7 "function_call" [.userFunc { id := 0 }]]
  statements :=
    [.numbered 0 [0] [(.fallthrough, [0, 1])],
     .numbered 1 [0] [(.fallthrough, []), (.statement 4, [2])],
     .numbered 2 [1] [(.fallthrough, [1])],
     .ret [⟨1⟩],
     .numbered 3 [2] [(.fallthrough, [])],
     .numbered 4 [] [(.fallthrough, [2])],
     .numbered 5 [2] [(.fallthrough, [2])],
     .numbered 2 [2] [(.fallthrough, [2])],
     .numbered 6 [1, 2] [(.fallthrough, [1])],
     .numbered 2 [1] [(.fallthrough, [1])],
     .numbered 7 [1] [(.fallthrough, [1])],
     .ret [⟨1⟩]]
  functions := [.numbered 0 [0] [0] 0]

/-- `countdown` is entered with the argument `2`, and returns to address `600`. -/
def countdownState : State where
  pc := 0
  ap := .ofInt 1000
  fp := .ofInt 1000
  mem a := (List.lookup a.rep [(997, 2), (998, 500), (999, 600), (11, 1)]).map Felt.ofInt

open Lowering in
/-- The runs of `countdown` follow an execution; one of them returns. -/
theorem exists_execution_countdown :
    ∃ r m out l store, Registry.build countdown = .ok r ∧ analyze r = .ok m ∧
      compile r m {} = .ok out ∧ lowerProgram ⟨r, m⟩ = .ok l ∧ NoWrap r m l ∧
      r.CalleesHaveBodies ∧
      StartsAt r l ⟨0, 600, 500⟩ (.numbered 0 [0] [0] 0) [.word 2] countdownState ∧
      ((run out 15 countdownState).any fun τ => τ.pc == 600) = true ∧
      ∀ {n : Nat} {τ : State}, run out n countdownState = some τ →
        ∃ n' k c σ', n' + k = n ∧
          Follows r m l ⟨0, 600, 500⟩ (.running 0 store []) countdownState n' c σ' ∧
          Reaches l k σ' τ c := by
  obtain ⟨r, hbuild, hr⟩ : ∃ r, Registry.build countdown = .ok r ∧
      ((r.type? { id := 0 }).any (·.shape.isWord) && (analyze r).toOption.any fun m =>
        (compile r m {}).toOption.any fun out =>
          (decide (out.constants = [1] ∧ out.codeSize = 11) &&
            (run out 15 countdownState).any fun τ => τ.pc == 600) &&
          (lowerProgram ⟨r, m⟩).toOption.any fun l => decide (NoWrap r m l)) = true :=
    exists_of_toOption_any (by decide +kernel)
  rw [Bool.and_eq_true] at hr
  obtain ⟨hword, hr⟩ := hr
  obtain ⟨m, hanalyze, hm⟩ := exists_of_toOption_any hr
  obtain ⟨out, hcompile, hout⟩ := exists_of_toOption_any hm
  rw [Bool.and_eq_true, Bool.and_eq_true, decide_eq_true_eq] at hout
  obtain ⟨⟨⟨hconstants, hcodeSize⟩, hreturns⟩, hl⟩ := hout
  obtain ⟨l, hlower, hexact⟩ := exists_of_toOption_any hl
  rw [decide_eq_true_eq] at hexact
  obtain ⟨hprogram, hvalid⟩ := Registry.build_valid hbuild
  have hentries : ∀ f ∈ r.program.functions, f.entry.toNat < r.program.statements.length := by
    rw [hprogram]
    decide
  have hbodies : r.CalleesHaveBodies := fun _ hlib hcall =>
    hentries _ (hvalid.callee_mem hlib hcall)
  have hfunction : r.program.functions[0]? = some (.numbered 0 [0] [0] 0) := by
    rw [hprogram]
    rfl
  obtain ⟨ty, hty, hshape⟩ := (Option.any_eq_true _ _).mp hword
  have hloaded : Loaded out countdownState.mem := by
    refine ⟨by rw [Program.bytecodeSize, hcodeSize, hconstants]; decide, fun {k v} hk => ?_⟩
    rw [hconstants] at hk
    rw [hcodeSize]
    cases k with
    | zero =>
      cases hk
      decide +kernel
    | succ k => cases hk
  have hargs : Stored countdownState.mem (countdownState.fp - 2 - (1 : Nat)) [some 2] := by
    intro k x hk
    cases k with
    | zero =>
      cases hk
      decide +kernel
    | succ k => cases hk
  obtain ⟨l', hlower', hassemble⟩ := compile_eq_ok hcompile
  obtain rfl := Except.ok.inj (hlower.symm.trans hlower')
  have hstart : StartsAt r l ⟨0, 600, 500⟩ (.numbered 0 [0] [0] 0) [.word 2] countdownState :=
    { function_eq := hfunction
      body := hentries _ (List.mem_of_getElem? hfunction)
      pc_eq := by
        rw [show (Function.numbered 0 [0] [0] 0).entry.toNat = 0 from rfl, statementAddress_eq]
        rfl
      ap_eq := rfl
      loaded := hassemble ▸ hloaded
      args := ⟨[some 2] ++ [], .cons (.word 2 hty hshape) .nil, hargs⟩
      return_eq := by decide +kernel
      frame_eq := by decide +kernel }
  obtain ⟨-, store, -, hruns⟩ :=
    exists_execution_of_run hbuild hanalyze hcompile hlower hexact hbodies hstart
  exact ⟨r, m, out, l, store, hbuild, hanalyze, hcompile, hlower, hexact, hbodies, hstart, hreturns,
    hruns⟩

end SierraCasm
