import SierraCasm.Lowering.Statement
import SierraCasm.Proofs.Ap.Runs

/-! # The environments of a lowered program

Lowering goes through the statements once.  An environment that has reached a statement stays, so
what was lowered in the middle of the pass is right about the final table: `LoweredProgram.Valid`
says how each statement was lowered from its environment and what its branches bring to their
targets, and where each environment comes from. -/

namespace SierraCasm.Lowering

open Sierra Concrete

/-! ### Tables -/

namespace EnvTable

/-- What has reached a statement stays. -/
def Keeps (t t' : EnvTable) : Prop := ∀ ⦃j : Nat⦄ ⦃e : Env⦄, t.at? j = some e → t'.at? j = some e

theorem Keeps.trans {t t' t'' : EnvTable} (h : t.Keeps t') (h' : t'.Keeps t'') : t.Keeps t'' := by
  intro j e hj
  exact h' (h hj)

theorem at?_set_self {t : EnvTable} {j : Nat} (h : j < t.length) (e : Env) :
    EnvTable.at? (t.set j (some e)) j = some e := by
  rw [EnvTable.at?, List.getElem?_set_self h, Option.join_some]

theorem at?_set_of_ne (t : EnvTable) {j k : Nat} (h : k ≠ j) (e : Env) :
    EnvTable.at? (t.set j (some e)) k = t.at? k := by
  rw [EnvTable.at?, List.getElem?_set_ne h.symm, EnvTable.at?]

theorem lt_of_at? {t : EnvTable} {j : Nat} {e : Env} (h : t.at? j = some e) : j < t.length := by
  simp only [EnvTable.at?, Option.join_eq_some_iff] at h
  exact (List.getElem?_eq_some_iff.mp h).1

end EnvTable

theorem Ref.same_self (r : Ref) : r.same r = true := by
  simp [Ref.same]

theorem Env.same_self (e : Env) : e.same e = true := by
  rw [Env.same, Bool.and_eq_true, beq_iff_eq, List.all_eq_true]
  refine ⟨rfl, fun ⟨x, y⟩ hp => ?_⟩
  obtain ⟨k, hk⟩ := List.getElem?_of_mem hp
  obtain ⟨hfirst, hsecond⟩ := List.getElem?_zip_eq_some.mp hk
  obtain rfl : x = y := Option.some.inj (hfirst.symm.trans hsecond)
  exact x.2.same_self

/-! ### Branches -/

/-- Branch `b` of statement `i` brings the environment `e` to its target. -/
def Brings (m : Metadata) (i b : Nat) (rest : Env) (branch : Branch) (outputs : List Ref)
    (e : Env) : Prop :=
  ∃ next after arrival, bindResults rest branch.results outputs = .ok next ∧
    m.branchState? i b = some after ∧
    m.state? (branch.target.resolve i).toNat = some arrival ∧
    e = if after.epoch = arrival.epoch then next else next.invalidateAp

section flow

variable {m : Metadata} {i b : Nat} {rest : Env} {table table' : EnvTable}

theorem flow_eq_ok {branch : Branch} {outputs : List Ref}
    (hlength : ∀ {j s}, m.state? j = some s → j < table.length)
    (h : flow m i b rest branch outputs table = .ok table') :
    ∃ e existing, Brings m i b rest branch outputs e ∧ table.Keeps table' ∧
      table'.length = table.length ∧
      table'.at? (branch.target.resolve i).toNat = some existing ∧ existing.same e = true ∧
      ∀ {j e'}, table'.at? j = some e' → table.at? j = some e' ∨
        (i < j ∧ (branch.target.resolve i).toNat = j ∧ e' = e) := by
  obtain ⟨next, hnext, h⟩ := bind_eq_ok.mp h
  dsimp only at h
  generalize htarget : (branch.target.resolve i).toNat = target at h ⊢
  split at h
  · rename_i after arrival hafter harrival
    have hbrings : Brings m i b rest branch outputs
        (if after.epoch = arrival.epoch then next else next.invalidateAp) :=
      ⟨next, after, arrival, mapError_eq_ok.mp hnext, hafter, by rw [htarget]; exact harrival, rfl⟩
    generalize (if after.epoch = arrival.epoch then next else next.invalidateAp) = e at h hbrings
    split at h
    · rename_i existing hexisting
      split at h
      · rename_i hsame
        cases h
        exact ⟨e, existing, hbrings, fun _ _ h => h, rfl, hexisting, hsame, .inl⟩
      · cases h
    · rename_i hnone
      split at h
      · cases h
      · rename_i hlt
        cases h
        have hself := EnvTable.at?_set_self (hlength harrival) e
        refine ⟨e, e, hbrings, ?_, List.length_set .., hself, e.same_self, ?_⟩
        · intro j e' hj
          have hne : j ≠ target := by
            rintro rfl
            rw [hnone] at hj
            cases hj
          rw [EnvTable.at?_set_of_ne _ hne, hj]
        · intro j e' hj
          by_cases heq : j = target
          · subst heq
            rw [hself] at hj
            cases hj
            exact .inr ⟨Nat.lt_of_not_le hlt, rfl, rfl⟩
          · rw [EnvTable.at?_set_of_ne _ heq] at hj
            exact .inl hj
  · cases h

/-- The branches of statement `i`, numbered from `b`, were passed on from one table to another. -/
structure Flowed (m : Metadata) (i b : Nat) (rest : Env) (branches : List Branch)
    (outputs : List (List Ref)) (table table' : EnvTable) : Prop where
  length_outputs : outputs.length = branches.length
  keeps : table.Keeps table'
  length_table : table'.length = table.length
  target : ∀ {k : Nat} {branch : Branch} {refs : List Ref}, branches[k]? = some branch →
    outputs[k]? = some refs → ∃ e existing, Brings m i (b + k) rest branch refs e ∧
      table'.at? (branch.target.resolve i).toNat = some existing ∧ existing.same e = true
  origin : ∀ {j : Nat} {e : Env}, table'.at? j = some e → table.at? j = some e ∨
    ∃ k branch refs, branches[k]? = some branch ∧ outputs[k]? = some refs ∧ i < j ∧
      (branch.target.resolve i).toNat = j ∧ Brings m i (b + k) rest branch refs e

theorem flowAll_eq_ok {branches : List Branch} {outputs : List (List Ref)}
    (hlength : ∀ {j s}, m.state? j = some s → j < table.length)
    (h : flowAll m i rest b branches outputs table = .ok table') :
    Flowed m i b rest branches outputs table table' := by
  induction branches generalizing b outputs table with
  | nil =>
    cases outputs with
    | nil =>
      cases h
      exact ⟨rfl, fun _ _ h => h, rfl, fun h => by simp at h, .inl⟩
    | cons _ _ => cases h
  | cons branch branches ih =>
    cases outputs with
    | nil => cases h
    | cons refs outputs =>
      obtain ⟨table₁, hfirst, h⟩ := bind_eq_ok.mp h
      obtain ⟨e, existing, hbrings, hkeeps, hlength₁, htarget, hsame, horigin⟩ :=
        flow_eq_ok hlength hfirst
      have hrest := ih (fun hs => by rw [hlength₁]; exact hlength hs) h
      refine ⟨by simp [hrest.length_outputs], hkeeps.trans hrest.keeps,
        hrest.length_table.trans hlength₁, ?_, ?_⟩
      · intro k branch' refs' hbranch hrefs
        cases k with
        | zero =>
          cases Option.some.inj hbranch
          cases Option.some.inj hrefs
          exact ⟨e, existing, hbrings, hrest.keeps htarget, hsame⟩
        | succ k =>
          obtain ⟨e', existing', hbrings', hrest'⟩ := hrest.target hbranch hrefs
          rw [Nat.add_right_comm] at hbrings'
          exact ⟨e', existing', hbrings', hrest'⟩
      · intro j e' hj
        rcases hrest.origin hj with hj | ⟨k, branch', refs', hbranch, hrefs, hlt, heq, hbrings'⟩
        · refine (horigin hj).imp_right ?_
          rintro ⟨hlt, heq, rfl⟩
          exact ⟨0, branch, refs, rfl, rfl, hlt, heq, hbrings⟩
        · rw [Nat.add_right_comm] at hbrings'
          exact .inr ⟨k + 1, branch', refs', hbranch, hrefs, hlt, heq, hbrings'⟩

end flow

/-! ### Statements -/

/-- The invocation at statement `i` is lowered from an environment. -/
structure Invoked (ctx : Context) (envs : EnvTable) (i : Nat) (inv : Invocation) (site : Ap.Site)
    (env : Env) (lib : ConcreteLibfunc) (args : List Ref) (rest : Env) (lowered : Lowered) :
    Prop where
  statement_eq : ctx.registry.program.statements[i]? = some (.invoke inv)
  site_eq : ctx.metadata.site? i = some site
  env_eq : envs.at? i = some env
  lib_eq : ctx.registry.libfunc? inv.libfunc = some lib
  args_eq : takeArgs env inv.args lib.signature.params = .ok (args, rest)
  lowered_eq : lowerInvocation ctx i site.state lib inv args = .ok lowered

/-- The return at statement `i` is lowered from an environment. -/
structure Returned (ctx : Context) (envs : EnvTable) (i : Nat) (vars : List VarId)
    (site : Ap.Site) (env : Env) (f : Function) (code : List Code) : Prop where
  site_eq : ctx.metadata.site? i = some site
  env_eq : envs.at? i = some env
  function_eq : ctx.registry.program.functions[site.owner]? = some f
  code_eq : lowerReturn f site.state env vars = .ok code

/-- An environment is brought to statement `j` by a branch of a statement before it. -/
def BroughtTo (ctx : Context) (envs : EnvTable) (j : Nat) (e : Env) : Prop :=
  ∃ i b inv site env lib args rest lowered branch refs,
    Invoked ctx envs i inv site env lib args rest lowered ∧ inv.branches[b]? = some branch ∧
    lowered.outputs[b]? = some refs ∧ i < j ∧ (branch.target.resolve i).toNat = j ∧
    Brings ctx.metadata i b rest branch refs e

/-- Statement `i` is lowered to a block, and its branches are passed on. -/
inductive StatementLowered (ctx : Context) (envs : EnvTable) (i : Nat) (block : List Code) :
    Statement → Prop
  | ret {vars : List VarId} {site : Ap.Site} {env : Env} {f : Function} :
      Returned ctx envs i vars site env f block → StatementLowered ctx envs i block (.ret vars)
  | invoke {inv : Invocation} {site : Ap.Site} {env rest : Env} {lib : ConcreteLibfunc}
      {args : List Ref} {lowered : Lowered} :
      Invoked ctx envs i inv site env lib args rest lowered → lowered.code = block →
      lowered.outputs.length = inv.branches.length →
      (∀ {b branch refs}, inv.branches[b]? = some branch → lowered.outputs[b]? = some refs →
        ∃ e existing, Brings ctx.metadata i b rest branch refs e ∧
          envs.at? (branch.target.resolve i).toNat = some existing ∧ existing.same e = true) →
      StatementLowered ctx envs i block (.invoke inv)

section statements

variable {ctx : Context} {envs envs' : EnvTable} {i j : Nat}

theorem Invoked.mono {inv : Invocation} {site : Ap.Site} {env rest : Env} {lib : ConcreteLibfunc}
    {args : List Ref} {lowered : Lowered} (henvs : envs.Keeps envs')
    (h : Invoked ctx envs i inv site env lib args rest lowered) :
    Invoked ctx envs' i inv site env lib args rest lowered :=
  { h with env_eq := henvs h.env_eq }

theorem BroughtTo.mono {e : Env} (henvs : envs.Keeps envs') (h : BroughtTo ctx envs j e) :
    BroughtTo ctx envs' j e := by
  obtain ⟨i, b, inv, site, env, lib, args, rest, lowered, branch, refs, hinvoked, h⟩ := h
  exact ⟨i, b, inv, site, env, lib, args, rest, lowered, branch, refs, hinvoked.mono henvs, h⟩

theorem StatementLowered.mono {block : List Code} {statement : Statement}
    (henvs : envs.Keeps envs') (h : StatementLowered ctx envs i block statement) :
    StatementLowered ctx envs' i block statement := by
  cases h with
  | ret hreturned => exact .ret { hreturned with env_eq := henvs hreturned.env_eq }
  | invoke hinvoked hcode hlength hbranch =>
    refine .invoke (hinvoked.mono henvs) hcode hlength fun hb hrefs => ?_
    obtain ⟨e, existing, hbrings, hat, hsame⟩ := hbranch hb hrefs
    exact ⟨e, existing, hbrings, henvs hat, hsame⟩

theorem lowerStatement_eq_ok {statement : Statement} {block : List Code}
    (hstatement : ctx.registry.program.statements[i]? = some statement)
    (hlength : ∀ {j s}, ctx.metadata.state? j = some s → j < envs.length)
    (h : lowerStatement ctx i statement envs = .ok (block, envs')) :
    envs.Keeps envs' ∧ envs'.length = envs.length ∧
      StatementLowered ctx envs' i block statement ∧
      ∀ {j e}, envs'.at? j = some e → envs.at? j = some e ∨ BroughtTo ctx envs' j e := by
  unfold lowerStatement at h
  split at h
  · rename_i site env hsite henv
    cases statement with
    | ret vars =>
      dsimp only at h
      split at h
      · cases h
      · rename_i f hf
        obtain ⟨code, hcode, h⟩ := bind_eq_ok.mp h
        cases h
        exact ⟨fun _ _ h => h, rfl, .ret ⟨hsite, henv, hf, mapError_eq_ok.mp hcode⟩, .inl⟩
    | invoke inv =>
      dsimp only at h
      split at h
      · cases h
      · rename_i lib hlib
        obtain ⟨⟨args, rest⟩, hargs, h⟩ := bind_eq_ok.mp h
        obtain ⟨lowered, hlowered, h⟩ := bind_eq_ok.mp h
        obtain ⟨table, htable, h⟩ := bind_eq_ok.mp h
        cases h
        have hflowed := flowAll_eq_ok hlength htable
        have hinvoked : Invoked ctx envs' i inv site env lib args rest lowered :=
          ⟨hstatement, hsite, hflowed.keeps henv, hlib, mapError_eq_ok.mp hargs,
            mapError_eq_ok.mp hlowered⟩
        refine ⟨hflowed.keeps, hflowed.length_table,
          .invoke hinvoked rfl hflowed.length_outputs fun hb hrefs => ?_, fun hj => ?_⟩
        · obtain ⟨e, existing, hbrings, hrest⟩ := hflowed.target hb hrefs
          rw [Nat.zero_add] at hbrings
          exact ⟨e, existing, hbrings, hrest⟩
        · refine (hflowed.origin hj).imp_right ?_
          rintro ⟨b, branch, refs, hb, hrefs, hlt, htarget, hbrings⟩
          rw [Nat.zero_add] at hbrings
          exact ⟨i, b, inv, site, env, lib, args, rest, lowered, branch, refs, hinvoked, hb, hrefs,
            hlt, htarget, hbrings⟩
  · cases h

theorem lowerFrom_eq_ok {statements : List Statement} {l : LoweredProgram}
    (hstatements : ∀ k, statements[k]? = ctx.registry.program.statements[i + k]?)
    (hlength : ∀ {j s}, ctx.metadata.state? j = some s → j < envs.length)
    (h : lowerFrom ctx i statements envs = .ok l) :
    envs.Keeps l.envs ∧ l.blocks.length = statements.length ∧
      (∀ {k block statement}, l.blocks[k]? = some block → statements[k]? = some statement →
        StatementLowered ctx l.envs (i + k) block statement) ∧
      ∀ {j e}, l.envs.at? j = some e → envs.at? j = some e ∨ BroughtTo ctx l.envs j e := by
  induction statements generalizing i envs l with
  | nil =>
    cases h
    exact ⟨fun _ _ h => h, rfl, fun h => by simp at h, .inl⟩
  | cons statement rest ih =>
    obtain ⟨⟨block, table⟩, hfirst, h⟩ := bind_eq_ok.mp h
    obtain ⟨lowered, hrest, h⟩ := bind_eq_ok.mp h
    cases h
    obtain ⟨hkeeps, hlength', hlowered, horigin⟩ :=
      lowerStatement_eq_ok (hstatements 0).symm hlength hfirst
    obtain ⟨hkeeps', hblocks, hall, horigin'⟩ := ih (i := i + 1)
      (fun k => by rw [Nat.add_assoc, Nat.add_comm 1 k]; exact hstatements (k + 1))
      (fun hs => by rw [hlength']; exact hlength hs) hrest
    refine ⟨hkeeps.trans hkeeps', by simp [hblocks], ?_, ?_⟩
    · intro k block' statement' hblock hstatement
      cases k with
      | zero =>
        cases Option.some.inj hblock
        cases Option.some.inj hstatement
        exact hlowered.mono hkeeps'
      | succ k =>
        rw [← Nat.add_assoc, Nat.add_right_comm]
        exact hall hblock hstatement
    · intro j e hj
      rcases horigin' hj with hj | hbrought
      · exact (horigin hj).imp_right (·.mono hkeeps')
      · exact .inr hbrought

end statements

/-! ### Function entries -/

/-- The environment at a statement is that of the function whose body starts there. -/
def EntersAt (r : Registry) (fs : List Function) (j : Nat) (e : Env) : Prop :=
  ∃ f ∈ fs, f.entry.toNat = j ∧ entryEnv r f = .ok e

theorem enterFunctions_eq_ok {r : Registry} {fs : List Function} {table table' : EnvTable}
    (hdistinct : fs.Pairwise fun f g =>
      f.entry.toNat < table.length → g.entry.toNat ≠ f.entry.toNat)
    (h : enterFunctions r fs table = .ok table') :
    table'.length = table.length ∧
      (∀ f ∈ fs, f.entry.toNat < table.length →
        ∃ e, entryEnv r f = .ok e ∧ table'.at? f.entry.toNat = some e) ∧
      (∀ {j e}, table'.at? j = some e → table.at? j = some e ∨ EntersAt r fs j e) ∧
      ∀ {j}, (∀ f ∈ fs, f.entry.toNat < table.length → f.entry.toNat ≠ j) →
        table'.at? j = table.at? j := by
  induction fs generalizing table with
  | nil =>
    cases h
    exact ⟨rfl, by simp, .inl, fun _ => rfl⟩
  | cons f fs ih =>
    obtain ⟨hfirst, hrest⟩ := List.pairwise_cons.mp hdistinct
    have hmore : ∀ {j e}, EntersAt r fs j e → EntersAt r (f :: fs) j e := by
      rintro j e ⟨g, hg, hrest⟩
      exact ⟨g, List.mem_cons_of_mem f hg, hrest⟩
    unfold enterFunctions at h
    dsimp only at h
    split at h
    · rename_i hlt
      split at h
      · rename_i e he
        have hlength : (table.set f.entry.toNat (some e)).length = table.length :=
          List.length_set ..
        obtain ⟨hlength', hentries, horigin, hother⟩ := ih (by rwa [hlength]) h
        rw [hlength] at hlength' hentries hother
        have hself := (hother fun g hg _ => hfirst g hg hlt).trans
          (EnvTable.at?_set_self hlt e)
        refine ⟨hlength', ?_, ?_, ?_⟩
        · intro g hg hglt
          rcases List.mem_cons.mp hg with rfl | hg
          · exact ⟨e, he, hself⟩
          · exact hentries g hg hglt
        · intro j e' hj
          rcases horigin hj with hj | hentered
          · by_cases heq : j = f.entry.toNat
            · subst heq
              rw [EnvTable.at?_set_self hlt] at hj
              cases hj
              exact .inr ⟨f, List.mem_cons_self, rfl, he⟩
            · rw [EnvTable.at?_set_of_ne _ heq] at hj
              exact .inl hj
          · exact .inr (hmore hentered)
        · intro j hj
          rw [hother fun g hg => hj g (List.mem_cons_of_mem f hg),
            EnvTable.at?_set_of_ne _ (hj f List.mem_cons_self hlt).symm]
      · cases h
    · rename_i hlt
      obtain ⟨hlength', hentries, horigin, hother⟩ := ih hrest h
      refine ⟨hlength', ?_, fun hj => (horigin hj).imp_right hmore,
        fun hj => hother fun g hg => hj g (List.mem_cons_of_mem f hg)⟩
      intro g hg hglt
      rcases List.mem_cons.mp hg with rfl | hg
      · exact absurd hglt hlt
      · exact hentries g hg hglt

/-! ### Programs -/

/-- How a program was lowered. -/
structure LoweredProgram.Valid (ctx : Context) (l : LoweredProgram) : Prop where
  length_blocks : l.blocks.length = ctx.registry.program.statements.length
  statement : ∀ {i : Nat} {block : List Code} {statement : Statement}, l.blocks[i]? = some block →
    ctx.registry.program.statements[i]? = some statement →
    StatementLowered ctx l.envs i block statement
  entry : ∀ {f : Function}, f ∈ ctx.registry.program.functions →
    f.entry.toNat < ctx.registry.program.statements.length →
    ∃ e, entryEnv ctx.registry f = .ok e ∧ l.envs.at? f.entry.toNat = some e
  origin : ∀ {j : Nat} {e : Env}, l.envs.at? j = some e →
    EntersAt ctx.registry ctx.registry.program.functions j e ∨ BroughtTo ctx l.envs j e

/-- Every edge of the program was passed on from an invocation, and agrees with what is at its
target. -/
theorem LoweredProgram.Valid.passed {r : Registry} {m : Metadata} {l : LoweredProgram}
    (hl : l.Valid ⟨r, m⟩) {i b j : Nat} {lib : ConcreteLibfunc} {sig : BranchSignature}
    (hedge : r.Edge i b lib sig j) :
    ∃ inv site env args rest lowered branch refs e existing,
      Invoked ⟨r, m⟩ l.envs i inv site env lib args rest lowered ∧
      inv.branches[b]? = some branch ∧ lowered.outputs[b]? = some refs ∧
      (branch.target.resolve i).toNat = j ∧ Brings m i b rest branch refs e ∧
      l.envs.at? j = some existing ∧ existing.same e = true := by
  obtain ⟨inv, branch, hstatement, hlib, hb, hsig, rfl⟩ := hedge
  have hblock : i < l.blocks.length := by
    rw [hl.length_blocks]
    exact (List.getElem?_eq_some_iff.mp hstatement).1
  cases hl.statement (List.getElem?_eq_getElem hblock) hstatement with
  | invoke hinvoked _ hlength hbranch =>
    obtain rfl := Option.some.inj (hlib.symm.trans hinvoked.lib_eq)
    have hrefs := List.getElem?_eq_getElem (l := Lowered.outputs _) (i := b) (by
      rw [hlength]
      exact (List.getElem?_eq_some_iff.mp hb).1)
    obtain ⟨e, existing, hbrings, hat, hsame⟩ := hbranch hb hrefs
    exact ⟨_, _, _, _, _, _, branch, _, e, existing, hinvoked, hb, hrefs, rfl, hbrings, hat, hsame⟩

theorem entries_distinct {r : Registry} {m : Metadata} (hm : m.Consistent r) :
    r.program.functions.Pairwise fun f g =>
      f.entry.toNat < (r.program.statements.map fun _ => (none : Option Env)).length →
      g.entry.toNat ≠ f.entry.toNat := by
  rw [List.pairwise_iff_getElem, List.length_map]
  intro a b ha hb hab hlt heq
  obtain ⟨site, hsite, howner, -⟩ := hm.entry (List.getElem?_eq_getElem ha) hlt
  obtain ⟨site', hsite', howner', -⟩ := hm.entry (List.getElem?_eq_getElem hb)
    (by rw [heq]; exact hlt)
  rw [heq, hsite] at hsite'
  cases hsite'
  omega

theorem lowerProgram_valid {r : Registry} {m : Metadata} (hm : m.Consistent r)
    {l : LoweredProgram} (h : lowerProgram ⟨r, m⟩ = .ok l) : l.Valid ⟨r, m⟩ := by
  obtain ⟨table, htable, h⟩ := bind_eq_ok.mp h
  have hlength : (r.program.statements.map fun _ => (none : Option Env)).length =
      r.program.statements.length := List.length_map _
  obtain ⟨hlength', hentries, horigin, -⟩ := enterFunctions_eq_ok (entries_distinct hm) htable
  have hreached : ∀ {j s}, m.state? j = some s → j < table.length := by
    intro j s hs
    rw [hlength', hlength]
    obtain ⟨site, hsite, -⟩ := Option.map_eq_some_iff.mp hs
    rcases hm.statement hsite with ⟨vars, hret⟩ | ⟨inv, lib, hinvoke, -⟩
    · exact (List.getElem?_eq_some_iff.mp hret).1
    · exact (List.getElem?_eq_some_iff.mp hinvoke).1
  obtain ⟨hkeeps, hblocks, hall, horigin'⟩ := lowerFrom_eq_ok (fun k => by rw [Nat.zero_add])
    hreached h
  refine ⟨hblocks, ?_, ?_, ?_⟩
  · intro i block statement hblock hstatement
    have := hall hblock hstatement
    rwa [Nat.zero_add] at this
  · intro f hf hlt
    obtain ⟨e, he, hat⟩ := hentries f hf (by rwa [hlength])
    exact ⟨e, he, hkeeps hat⟩
  · intro j e hj
    refine (horigin' hj).imp_left fun hj => (horigin hj).resolve_left ?_
    simp only [EnvTable.at?, List.getElem?_map]
    cases r.program.statements[j]? <;> simp

end SierraCasm.Lowering
