import SierraCasm.Proofs.Lowering.Blocks
import SierraCasm.Proofs.Lowering.Epochs

/-! # Arriving at a statement

A branch arrives at its target with the environment of the target in place (`Compiled.arrives`): the
variables that were left over keep their cells where `ap` moves on by a known number of cells, and
lose them where an epoch opens.  All of it rests on numbers that do not wrap (`NoWrap`). -/

namespace SierraCasm.Lowering

open Sierra Concrete Casm

/-! ### Numbers that do not wrap -/

/-- The distance of a stack cell of the current epoch from `ap` does not wrap. -/
def Cell.Exact (s : ApState) : Cell → Prop
  | .ap epoch position =>
    epoch = s.epoch → (position - s.offset).toInt = position.toInt - s.offset.toInt
  | .fp _ => True

instance (s : ApState) (c : Cell) : Decidable (c.Exact s) :=
  match c with
  | .ap epoch _ => inferInstanceAs (Decidable (epoch = s.epoch → _))
  | .fp _ => inferInstanceAs (Decidable True)

/-- The distances of the stack cells of an environment do not wrap, before and after the statement
that it belongs to. -/
def Env.Exact (env : Env) (site : Ap.Site) : Prop :=
  ∀ binding ∈ env.bindings, ∀ e ∈ binding.2.cells, ∀ c ∈ e.locations,
    c.Exact site.state ∧ ∀ after ∈ site.after, c.Exact after

instance (env : Env) (site : Ap.Site) : Decidable (env.Exact site) :=
  inferInstanceAs (Decidable (∀ binding ∈ env.bindings, ∀ e ∈ binding.2.cells, ∀ c ∈ e.locations,
    c.Exact site.state ∧ ∀ after ∈ site.after, c.Exact after))

/-- Nothing wraps: neither the size of a struct, nor a position of `ap`, nor the distance from it of
a stack cell that is alive, nor the number of cells that the parameters, with the frame of a call,
or the results of a function take. -/
structure NoWrap (r : Registry) (m : Metadata) (l : LoweredProgram) : Prop where
  sizes : r.SizesExact
  positions : m.Exact r
  distances : ∀ i < l.envs.length, ∀ env ∈ l.envs.at? i, ∀ site ∈ m.site? i, env.Exact site
  params : ∀ f ∈ r.program.functions, (f.paramTypes.map r.cells).sum + 2 ≤ 2 ^ 63
  results : ∀ f ∈ r.program.functions, (f.retTypes.map r.cells).sum < 2 ^ 63

instance (r : Registry) (m : Metadata) (l : LoweredProgram) : Decidable (NoWrap r m l) :=
  decidable_of_iff (r.SizesExact ∧ m.Exact r ∧
      (∀ i < l.envs.length, ∀ env ∈ l.envs.at? i, ∀ site ∈ m.site? i, env.Exact site) ∧
      (∀ f ∈ r.program.functions, (f.paramTypes.map r.cells).sum + 2 ≤ 2 ^ 63) ∧
      ∀ f ∈ r.program.functions, (f.retTypes.map r.cells).sum < 2 ^ 63)
    ⟨fun ⟨sizes, positions, distances, params, results⟩ =>
      ⟨sizes, positions, distances, params, results⟩,
     fun h => ⟨h.sizes, h.positions, h.distances, h.params, h.results⟩⟩

theorem NoWrap.exact {r : Registry} {m : Metadata} {l : LoweredProgram} (h : NoWrap r m l) {i : Nat}
    {env : Env} {site : Ap.Site} (henv : l.envs.at? i = some env) (hsite : m.site? i = some site)
    {c : Cell} (hc : env.Has c) : c.Exact site.state ∧ ∀ after ∈ site.after, c.Exact after := by
  obtain ⟨v, ref, hv, e, he, hc⟩ := hc
  obtain ⟨binding, hbinding, rfl⟩ := Option.map_eq_some_iff.mp hv
  exact h.distances i (EnvTable.lt_of_at? henv) env henv site hsite binding
    (List.mem_of_find?_eq_some hbinding) e he c hc

/-- A cell stays in reach of the positions up to one from which its distance does not wrap. -/
theorem Cell.Exact.within {c : Cell} {s after : ApState} {i : Nat} {cells : Int64}
    (hcounts : Ap.Counts s after i cells.toInt (.known cells)) (hs : c.Exact s)
    (hafter : c.Exact after) : c.Within s cells.toInt.toNat := by
  cases c with
  | fp offset => trivial
  | ap epoch position =>
    intro hepoch
    obtain ⟨hepoch', hoffset⟩ := counts_known hcounts
    have hdistance := hs hepoch
    have hdistance' := hafter (by rw [hepoch', hepoch])
    have hle := (position - s.offset).le_toInt
    have hle' := (position - after.offset).le_toInt
    omega

/-- A cell that is alive keeps its address, or loses its epoch. -/
theorem Cell.carries_of_counts {V V' : View} {c : Cell} {i : Nat} {d : Int} {e : ApEffect}
    (hcounts : Ap.Counts V.state V'.state i d e) (hbefore : c.Before (ApState.epochAtJoin i))
    (hs : c.Exact V.state) (hs' : c.Exact V'.state) (hap : V'.ap = V.ap + Felt.ofInt d)
    (hfp : V'.fp = V.fp) (hmem : V.mem.Keeps V'.mem) : c.Carries V V' := by
  cases c with
  | fp offset => exact Cell.carries_fp hfp hmem
  | ap epoch position =>
    rcases hcounts with ⟨hepoch, hoffset⟩ | ⟨hepoch, -, -⟩
    · refine Cell.carries_of_move hmem hepoch hap fun heq => ?_
      rw [hs heq, hs' (by rw [hepoch, heq]), hoffset]
      omega
    · -- In a loop the epoch that opens may have been open before, but the cell is older than that.
      refine Cell.carries_of_epoch ?_
      have hlt : epoch < ApState.epochAtJoin i := hbefore
      unfold ApState.epochAtJoin at hlt
      unfold ApState.epochAfter at hepoch
      omega

/-! ### Where `ap` is -/

/-- `ap` is some cells above `fp`; in the first epoch of a function the position counts them. -/
def Placed (s : ApState) (ap fp : Felt) (a : Nat) : Prop :=
  ap = fp + (a : Nat) ∧ (s.epoch = 0 → s.offset.toInt = a)

theorem Placed.move {s after : ApState} {ap fp : Felt} {a i : Nat} {d : Int} {e : ApEffect}
    (h : Placed s ap fp a) (hcounts : Ap.Counts s after i d e) (hd : 0 ≤ d) :
    Placed after (ap + Felt.ofInt d) fp (a + d.toNat) := by
  refine ⟨?_, fun hzero => ?_⟩
  · have hcast : Felt.ofInt d = ((d.toNat : Nat) : Felt) := by
      rw [Felt.ofInt_eq_cast, ← Int.cast_natCast, Int.toNat_of_nonneg hd]
    rw [h.1, hcast, Nat.cast_add, add_assoc]
  · rcases hcounts with ⟨hepoch, hoffset⟩ | ⟨hepoch, -, -⟩
    · rw [hoffset, h.2 (by rw [← hepoch, hzero])]
      omega
    · rw [hzero] at hepoch
      unfold ApState.epochAfter at hepoch
      omega

theorem Placed.atJoin {s : ApState} {ap fp : Felt} {a i : Nat} (h : Placed s ap fp a) :
    Placed (.atJoin i) ap fp a := by
  refine ⟨h.1, fun hzero => ?_⟩
  have : ApState.epochAtJoin i = 0 := hzero
  unfold ApState.epochAtJoin at this
  omega

/-! ### Arrivals -/

/-- Function `g` is at statement `i`: its variables have their values there, and `ap` is where the
analysis says. -/
def Arrives (r : Registry) (m : Metadata) (l : LoweredProgram) (g i : Nat) (store : Store)
    (ap fp : Felt) (mem : Memory) : Prop :=
  ∃ site env a, m.site? i = some site ∧ site.owner = g ∧ l.envs.at? i = some env ∧
    env.Denotes r ⟨site.state, ap, fp, mem⟩ store ∧ Placed site.state ap fp a

/-- What is known of a program that was validated, analyzed and lowered. -/
structure Compiled (r : Registry) (m : Metadata) (l : LoweredProgram) : Prop where
  valid : r.Valid
  types : r.TypesValid
  consistent : m.Consistent r
  lowered : l.Valid ⟨r, m⟩
  noWrap : NoWrap r m l

variable {r : Registry} {m : Metadata} {l : LoweredProgram}

theorem Brings.denotes {i b : Nat} {rest e existing : Env} {branch : Branch} {refs : List Ref}
    {after : ApState} {site : Ap.Site} {ap fp : Felt} {mem : Memory} {store : Store}
    {results : List Value} (h : Brings m i b rest branch refs e)
    (hsame : existing.same e = true)
    (hstate : site.state = after ∨ site.state = .atJoin (branch.target.resolve i).toNat)
    (hcells : ∀ c, existing.Has c → c.Before (ApState.epochAtJoin (branch.target.resolve i).toNat))
    (hrest : rest.Denotes r ⟨after, ap, fp, mem⟩ store)
    (hresults : List.Forall₂ (Ref.Denotes r ⟨after, ap, fp, mem⟩) refs results) :
    ∃ store', store.bind branch.results results = some store' ∧
      existing.Denotes r ⟨site.state, ap, fp, mem⟩ store' := by
  obtain ⟨next, after', arrival, hnext, -, -, rfl⟩ := h
  obtain ⟨store', hbind, hdenotes⟩ := hrest.bindResults hresults hnext
  refine ⟨store', hbind, ?_⟩
  have hexisting : existing.Denotes r ⟨after, ap, fp, mem⟩ store' := by
    refine Env.Denotes.of_same hsame ?_
    split
    · exact hdenotes
    · exact hdenotes.invalidateAp
  rcases hstate with hstate | hstate
  · rw [hstate]
    exact hexisting
  · -- A join opens its own epoch, in which no cell of the environment is.
    rw [hstate]
    refine hexisting.carry mem.keeps_self fun c hc => ?_
    cases c with
    | fp offset => exact Cell.carries_fp rfl mem.keeps_self
    | ap epoch position => exact Cell.carries_of_epoch (Nat.ne_of_lt (hcells _ hc))

section branch

variable {i b a : Nat} {inv : Invocation} {site : Ap.Site} {env rest : Env} {lib : ConcreteLibfunc}
  {args : List Ref} {lowered : Lowered} {branch : Branch} {bsig : BranchSignature}

theorem Compiled.carries (h : Compiled r m l)
    (hinvoked : Invoked ⟨r, m⟩ l.envs i inv site env lib args rest lowered) {next : ApState}
    (hnext : next ∈ site.after) {d : Int} {e : ApEffect}
    (hcounts : Ap.Counts site.state next i d e) {ap ap' fp : Felt} {mem mem' : Memory}
    (hap : ap' = ap + Felt.ofInt d) (hmem : mem.Keeps mem') {c : Cell} (hc : env.Has c) :
    c.Carries ⟨site.state, ap, fp, mem⟩ ⟨next, ap', fp, mem'⟩ := by
  obtain ⟨hexact, hexact'⟩ := h.noWrap.exact hinvoked.env_eq hinvoked.site_eq hc
  have hbefore := (h.lowered.epochs h.valid h.consistent hinvoked.env_eq hinvoked.site_eq).2 c hc
  exact Cell.carries_of_counts hcounts hbefore hexact (hexact' next hnext) hap rfl hmem

theorem Compiled.arrives (h : Compiled r m l)
    (hinvoked : Invoked ⟨r, m⟩ l.envs i inv site env lib args rest lowered)
    (hb : inv.branches[b]? = some branch) (hsig : lib.signature.branches[b]? = some bsig)
    {refs : List Ref} (hbrings : ∃ e existing, Brings m i b rest branch refs e ∧
      l.envs.at? (branch.target.resolve i).toNat = some existing ∧ existing.same e = true)
    {ap ap' fp : Felt} {mem mem' : Memory} {store : Store} {results : List Value} {d : Int}
    (hrest : rest.Denotes r ⟨site.state, ap, fp, mem⟩ store) (hplaced : Placed site.state ap fp a)
    (hcounts : ∀ {next}, site.after[b]? = some next →
      Ap.Effect r.program (fun g c => m.changes[g]? = some c) i site.state bsig.ap next →
      Ap.Counts site.state next i d bsig.ap)
    (hd : 0 ≤ d) (hap : ap' = ap + Felt.ofInt d) (hmem : mem.Keeps mem')
    (hresults : ∀ {next}, m.branchState? i b = some next →
      Ap.Counts site.state next i d bsig.ap →
      (∀ arg ∈ args, ∀ c, arg.Has c →
        c.Carries ⟨site.state, ap, fp, mem⟩ ⟨next, ap', fp, mem'⟩) →
      List.Forall₂ (Ref.Denotes r ⟨next, ap', fp, mem'⟩) refs results) :
    ∃ store', store.bind branch.results results = some store' ∧
      Arrives r m l site.owner (branch.target.resolve i).toNat store' ap' fp mem' := by
  obtain ⟨next, site', hnext, heffect, hsite', howner, hstate⟩ :=
    h.consistent.edge hinvoked.site_eq (hinvoked.edge hb hsig)
  have hafter : m.branchState? i b = some next := by
    rw [Metadata.branchState?, hinvoked.site_eq, Option.bind_some, hnext]
  have hcounts := hcounts hnext heffect
  obtain ⟨e, existing, hbrings, hexisting, hsame⟩ := hbrings
  have hcarries : ∀ {c : Cell}, env.Has c →
      c.Carries ⟨site.state, ap, fp, mem⟩ ⟨next, ap', fp, mem'⟩ :=
    h.carries hinvoked (List.mem_of_getElem? hnext) hcounts hap hmem
  have hargs := fun c => has_of_takeArgs hinvoked.args_eq (c := c)
  obtain ⟨store', hbind, hdenotes⟩ := hbrings.denotes hsame hstate
    (h.lowered.epochs h.valid h.consistent hexisting hsite').2
    (hrest.carry hmem fun c hc => hcarries ((hargs c).2 hc))
    (hresults hafter hcounts fun arg harg c hc => hcarries ((hargs c).1 arg harg hc))
  refine ⟨store', hbind, site', existing, a + d.toNat, hsite', howner, hexisting, hdenotes, ?_⟩
  have hmoved := hplaced.move hcounts hd
  rw [← hap] at hmoved
  rcases hstate with hstate | hstate <;> rw [hstate]
  · exact hmoved
  · exact hmoved.atJoin

end branch

end SierraCasm.Lowering
