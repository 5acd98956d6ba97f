import Mathlib.Algebra.Group.Int.Defs
import SierraCasm.Proofs.Ap.Fixpoint
import SierraCasm.Proofs.Registry.Valid
import SierraCasm.Proofs.Sierra.Samples

/-! # The analysis of `ap` over runs

A run of a function is a sequence of statements along branches, with the distance that `ap` has
moved since the entry; a call moves it by the frame and by some complete run of the callee.  The
recorded position of a statement counts from the last opening of its epoch on the run
(`located_of_run`), and the recorded change of a function is what its complete runs do.

Both rest on how the changes of returns are compared: a negative offset is not compared with the
next one.  So what the analysis says is right on all runs exactly if no complete run of a function
with a known change ends at a different negative offset (`soundOnRuns_iff`). -/

namespace SierraCasm

open Sierra Concrete

namespace Ap

/-! ### Runs -/

/-- How a branch without a call moves `ap`. -/
inductive Moves : ApEffect → Int → Prop
  | known (cells : Int64) : Moves (.known cells) cells.toInt
  | enable : Moves .enableTracking 0
  | disable : Moves .disableTracking 0

/-- A run of function `f`, latest statement first: the statements it arrives at, each with the
distance of `ap` from the entry. -/
inductive Run (r : Registry) : Nat → List (Nat × Int) → Prop
  | start {f : Nat} {function : Function} : r.program.functions[f]? = some function →
      function.entry.toNat < r.program.statements.length →
      Run r f [(function.entry.toNat, 0)]
  | step {f i b target : Nat} {a d : Int} {past : List (Nat × Int)} {lib : ConcreteLibfunc}
      {sig : BranchSignature} : Run r f ((i, a) :: past) → r.Edge i b lib sig target →
      Moves sig.ap d → Run r f ((target, a + d) :: (i, a) :: past)
  | call {f i b target g j : Nat} {a d : Int} {past inner : List (Nat × Int)}
      {lib : ConcreteLibfunc} {sig : BranchSignature} {callee : Ident} :
      Run r f ((i, a) :: past) → r.Edge i b lib sig target → sig.ap = .call callee →
      r.program.functionIndex? callee = some g → Run r g ((j, d) :: inner) →
      r.IsReturn j → Run r f ((target, a + (2 + d)) :: (i, a) :: past)

/-- Function `f` has a complete run that ends at the return `i` and moves `ap` by `d`. -/
def CompleteRun (r : Registry) (f i : Nat) (d : Int) : Prop :=
  r.IsReturn i ∧ ∃ past, Run r f ((i, d) :: past)

/-- The distance at the last opening of an epoch: epoch `0` opens at the entry, the epoch of a
join at an arrival there, and the epoch after a statement at an exit of it. -/
def lastOpening (epoch : Nat) : List (Nat × Int) → Option Int
  | [] => none
  | [(i, a)] => if epoch = 0 ∨ epoch = ApState.epochAtJoin i then some a else none
  | (i, a) :: (j, a') :: past =>
    if epoch = ApState.epochAtJoin i ∨ epoch = ApState.epochAfter j then some a
    else lastOpening epoch ((j, a') :: past)

end Ap

namespace Metadata

open Ap

/-- The sum of two offsets does not wrap. -/
def SumExact (x y : Int64) : Prop := (x + y).toInt = x.toInt + y.toInt

instance (x y : Int64) : Decidable (SumExact x y) :=
  inferInstanceAs (Decidable ((x + y).toInt = x.toInt + y.toInt))

/-- The sums behind the position `next` after a call at statement `i` from `s` do not wrap. -/
def ExactCall (i : Nat) (s next : ApState) : ApChange → Prop
  | .known n => next = s.afterCall i (.known n) →
    SumExact n ApState.callFrame ∧ SumExact s.offset (n + ApState.callFrame)
  | .unknown => True

instance (i : Nat) (s next : ApState) (c : ApChange) : Decidable (ExactCall i s next c) :=
  match c with
  | .known n => inferInstanceAs (Decidable (next = s.afterCall i (.known n) → _))
  | .unknown => inferInstanceAs (Decidable True)

/-- The sums behind the position `next` after a branch of statement `i` from `s` do not wrap. -/
def ExactStep (r : Registry) (m : Metadata) (i : Nat) (s next : ApState) : ApEffect → Prop
  | .known cells => SumExact s.offset cells
  | .call callee =>
    ∀ g ∈ r.program.functionIndex? callee, ∀ c ∈ m.changes[g]?, ExactCall i s next c
  | .enableTracking | .disableTracking => True

instance (r : Registry) (m : Metadata) (i : Nat) (s next : ApState) (e : ApEffect) :
    Decidable (ExactStep r m i s next e) :=
  match e with
  | .known cells => inferInstanceAs (Decidable (SumExact s.offset cells))
  | .call callee => inferInstanceAs (Decidable
      (∀ g ∈ r.program.functionIndex? callee, ∀ c ∈ m.changes[g]?, ExactCall i s next c))
  | .enableTracking | .disableTracking => inferInstanceAs (Decidable True)

/-- No sum of offsets whose result is recorded wraps: neither where a branch moves `ap` by a fixed
number of cells, nor after a call that moves it by a known change. -/
def Exact (r : Registry) (m : Metadata) : Prop :=
  ∀ i < m.sites.length, ∀ site ∈ m.site? i, ∀ sig ∈ r.signature? i,
    ∀ x ∈ sig.branches.zip site.after, ExactStep r m i site.state x.2 x.1.ap

instance (r : Registry) (m : Metadata) : Decidable (m.Exact r) :=
  inferInstanceAs (Decidable (∀ i < m.sites.length, ∀ site ∈ m.site? i, ∀ sig ∈ r.signature? i,
    ∀ x ∈ sig.branches.zip site.after, ExactStep r m i site.state x.2 x.1.ap))

/-- What is recorded is right on every run: a known change is what every complete run of the
function does, and every position counts from the last opening of its epoch. -/
structure SoundOnRuns (r : Registry) (m : Metadata) : Prop where
  change : ∀ {f i : Nat} {n : Int64} {d : Int}, m.changes[f]? = some (.known n) →
    CompleteRun r f i d → d = n.toInt
  position : ∀ {f i : Nat} {a : Int} {past : List (Nat × Int)}, Run r f ((i, a) :: past) →
    ∃ s o, m.state? i = some s ∧ lastOpening s.epoch ((i, a) :: past) = some o ∧
      a = o + s.offset.toInt

/-- No complete run of a function with a known change ends at another negative offset. -/
def NegativeReturnsAgree (r : Registry) (m : Metadata) : Prop :=
  ∀ {f i : Nat} {n : Int64} {d : Int} {s : ApState}, m.changes[f]? = some (.known n) →
    CompleteRun r f i d → m.state? i = some s → s.offset < 0 → s.offset = n

theorem Exact.step {r : Registry} {m : Metadata} (h : m.Exact r) {i b target : Nat}
    {site : Site} {lib : ConcreteLibfunc} {sig : BranchSignature} {next : ApState}
    (hi : m.site? i = some site) (hedge : r.Edge i b lib sig target)
    (hnext : site.after[b]? = some next) : ExactStep r m i site.state next sig.ap := by
  obtain ⟨inv, branch, hinv, hlib, -, hsig, -⟩ := hedge
  have hlt : i < m.sites.length := by
    simp only [site?, Option.join_eq_some_iff] at hi
    exact (List.getElem?_eq_some_iff.mp hi).1
  have hsignature : r.signature? i = some lib.signature := by
    simp [Registry.signature?, hinv, hlib]
  have hzip : (lib.signature.branches.zip site.after)[b]? = some (sig, next) := by
    rw [List.getElem?_zip_eq_some]
    exact ⟨hsig, hnext⟩
  exact h i hlt site hi _ hsignature (sig, next) (List.mem_of_getElem? hzip)

end Metadata

namespace Ap

/-! ### Openings -/

/-- The branch can open an epoch. -/
def Opens : ApEffect → Prop
  | .call _ | .enableTracking => True
  | .known _ | .disableTracking => False

theorem branches_of_opens {ctx : LibfuncContext} {lib : ConcreteLibfunc} {b : Nat}
    {sig : BranchSignature} (h : Specialized ctx lib)
    (hsig : lib.signature.branches[b]? = some sig) (hopens : Opens sig.ap) :
    lib.signature.branches = [sig] := by
  have hmem := List.mem_of_getElem? hsig
  cases h with
  | felt252IsZero | withdrawGas =>
    simp only [List.mem_cons, List.not_mem_nil, or_false] at hmem
    rcases hmem with rfl | rfl <;> exact hopens.elim
  | _ =>
    simp only [Signature.single, List.mem_singleton] at hmem
    subst hmem
    rfl

variable {r : Registry} {m : Metadata}

/-- Where an epoch was opened, by what is recorded: a join is recorded as one, and the only branch
of a statement after which an epoch opens has its start as the position after it. -/
structure Opened (r : Registry) (m : Metadata) (epoch : Nat) : Prop where
  join : ∀ {j : Nat}, epoch = ApState.epochAtJoin j → m.state? j = some (.atJoin j)
  after : ∀ {i b target : Nat} {lib : ConcreteLibfunc} {sig : BranchSignature},
    epoch = ApState.epochAfter i → r.Edge i b lib sig target →
    ∃ next, m.branchState? i b = some next ∧ next.offset = 0

theorem opened_entry (r : Registry) (m : Metadata) : Opened r m 0 where
  join h := by simp [ApState.epochAtJoin] at h
  after h := by simp [ApState.epochAfter] at h

theorem opened_join {j : Nat} (h : m.state? j = some (.atJoin j)) :
    Opened r m (ApState.epochAtJoin j) where
  join {k} hk := by
    obtain rfl : j = k := by
      unfold ApState.epochAtJoin at hk
      omega
    exact h
  after {k} _ _ _ _ hk := by
    unfold ApState.epochAtJoin ApState.epochAfter at hk
    omega

theorem opened_after (hvalid : r.Valid) {i b target : Nat} {lib : ConcreteLibfunc}
    {sig : BranchSignature} (hedge : r.Edge i b lib sig target) (hopens : Opens sig.ap)
    {next : ApState} (hnext : m.branchState? i b = some next) (hoffset : next.offset = 0) :
    Opened r m (ApState.epochAfter i) where
  join {k} hk := by
    unfold ApState.epochAtJoin ApState.epochAfter at hk
    omega
  after {i' b' _ _ _} hi hedge' := by
    obtain rfl : i = i' := by
      unfold ApState.epochAfter at hi
      omega
    obtain ⟨inv, branch, hinv, hlib, -, hsig, -⟩ := hedge
    obtain ⟨inv', branch', hinv', hlib', -, hsig', -⟩ := hedge'
    obtain rfl : inv = inv' := by simpa [hinv] using hinv'
    obtain rfl : lib = _ := by simpa [hlib] using hlib'
    have hall := branches_of_opens (hvalid.libfunc hlib) hsig hopens
    have hb : b < lib.signature.branches.length := (List.getElem?_eq_some_iff.mp hsig).1
    have hb' : b' < lib.signature.branches.length := (List.getElem?_eq_some_iff.mp hsig').1
    rw [hall, List.length_singleton] at hb hb'
    obtain rfl : b' = b := by omega
    exact ⟨next, hnext, hoffset⟩

/-! ### Changes of returns -/

/-- Returns that agree on a change are in epoch `0`, at that offset unless theirs is negative. -/
theorem agreedChange_eq_known {last n : Int64} {states : List ApState}
    (h : agreedChange last states = .known n) :
    (0 ≤ last → last = n) ∧ ∀ s ∈ states, s.epoch = 0 ∧ (0 ≤ s.offset → s.offset = n) := by
  induction states generalizing last with
  | nil =>
    cases h
    exact ⟨fun _ => rfl, by simp⟩
  | cons s rest ih =>
    unfold agreedChange at h
    split at h
    · cases h
    · rename_i hagree
      rw [not_or, not_and, not_not, not_not] at hagree
      obtain ⟨hfirst, hrest⟩ := ih h
      refine ⟨fun hlast => ?_, fun t ht => ?_⟩
      · have heq := hagree.2 hlast
        rw [← heq]
        exact hfirst (by rw [heq]; exact hlast)
      · rcases List.mem_cons.mp ht with rfl | ht
        · exact ⟨hagree.1, hfirst⟩
        · exact hrest t ht

/-- A return of a function with a known change is in epoch `0`, at that offset unless its own is
negative. -/
theorem return_of_known (hm : m.Consistent r) {f i : Nat} {n : Int64} {site : Site}
    (hchange : m.changes[f]? = some (.known n)) (hi : m.site? i = some site)
    (howner : site.owner = f) (hreturn : r.IsReturn i) :
    site.state.epoch = 0 ∧ (0 ≤ site.state.offset → site.state.offset = n) := by
  obtain ⟨is, his, hgive⟩ := hm.change hchange
  have hmem : site.state ∈ is.filterMap m.state? := by
    rw [List.mem_filterMap]
    refine ⟨i, (his i).mpr ⟨hreturn, ?_⟩, ?_⟩
    · rw [Metadata.owner?, hi, Option.map_some, howner]
    · rw [Metadata.state?, hi, Option.map_some]
  unfold changeOfReturns at hgive
  split at hgive
  · cases hgive
  · exact (agreedChange_eq_known hgive.symm).2 _ hmem

/-! ### Positions on runs -/

/-- A run of function `f` at statement `i` is where the recorded position says. -/
structure Located (r : Registry) (m : Metadata) (f i : Nat) (a : Int)
    (past : List (Nat × Int)) (site : Site) : Prop where
  site_eq : m.site? i = some site
  owner_eq : site.owner = f
  position : ∃ o, lastOpening site.state.epoch ((i, a) :: past) = some o ∧
    a = o + site.state.offset.toInt
  opened : Opened r m site.state.epoch

theorem located_join {f i : Nat} {a : Int} {past : List (Nat × Int)} {site : Site}
    (hi : m.site? i = some site) (howner : site.owner = f) (hjoin : site.state = .atJoin i) :
    Located r m f i a past site := by
  have hstate : m.state? i = some (.atJoin i) := by
    rw [Metadata.state?, hi, Option.map_some, hjoin]
  refine ⟨hi, howner, ⟨a, ?_, ?_⟩, ?_⟩
  · rw [hjoin]
    cases past with
    | nil => simp [lastOpening, ApState.atJoin]
    | cons _ _ => simp [lastOpening, ApState.atJoin]
  · rw [hjoin]
    simp [ApState.atJoin]
  · rw [hjoin]
    exact opened_join hstate

/-- The effect of a branch that moves `ap` by `d`: it stays in the epoch and counts on, or it opens
one. -/
def Counts (s next : ApState) (i : Nat) (d : Int) (e : ApEffect) : Prop :=
  (next.epoch = s.epoch ∧ next.offset.toInt = s.offset.toInt + d) ∨
  (next.epoch = ApState.epochAfter i ∧ next.offset = 0 ∧ Opens e)

theorem Located.step (hvalid : r.Valid) (hm : m.Consistent r) {f i b target : Nat} {a d : Int}
    {past : List (Nat × Int)} {site : Site} {lib : ConcreteLibfunc} {sig : BranchSignature}
    (h : Located r m f i a past site) (hedge : r.Edge i b lib sig target)
    (hcounts : ∀ next, site.after[b]? = some next →
      Effect r.program (fun g c => m.changes[g]? = some c) i site.state sig.ap next →
      Counts site.state next i d sig.ap) :
    ∃ site', Located r m f target (a + d) ((i, a) :: past) site' := by
  obtain ⟨next, site', hnext, heffect, hsite', howner', hstate⟩ := hm.edge h.site_eq hedge
  have howner : site'.owner = f := howner'.trans h.owner_eq
  have hbranch : m.branchState? i b = some next := by
    rw [Metadata.branchState?, h.site_eq, Option.bind_some, hnext]
  refine ⟨site', ?_⟩
  by_cases hjoin : site'.state = .atJoin target
  · exact located_join hsite' howner hjoin
  · obtain rfl : next = site'.state := (hstate.resolve_right hjoin).symm
    obtain ⟨o, ho, ha⟩ := h.position
    rcases hcounts _ hnext heffect with ⟨hepoch, hoffset⟩ | ⟨hepoch, hoffset, hopens⟩
    · have hopened : Opened r m site'.state.epoch := by
        rw [hepoch]
        exact h.opened
      refine ⟨hsite', howner, ?_, hopened⟩
      by_cases hopening : site'.state.epoch = ApState.epochAtJoin target ∨
          site'.state.epoch = ApState.epochAfter i
      · -- The run passes an opening of the epoch it is in, so the position is its start.
        have hzero : site'.state.offset = 0 := by
          rcases hopening with hepoch' | hepoch'
          · have hstate' := hopened.join hepoch'
            rw [Metadata.state?, hsite', Option.map_some] at hstate'
            exact absurd (Option.some.inj hstate') hjoin
          · obtain ⟨next', hnext', hzero⟩ := hopened.after hepoch' hedge
            rw [hbranch] at hnext'
            cases hnext'
            exact hzero
        refine ⟨a + d, by rw [lastOpening, if_pos hopening], ?_⟩
        simp [hzero]
      · refine ⟨o, ?_, by omega⟩
        rw [lastOpening, if_neg hopening, hepoch]
        exact ho
    · refine ⟨hsite', howner, ⟨a + d, by rw [lastOpening, if_pos (.inr hepoch)], ?_⟩, ?_⟩
      · simp [hoffset]
      · rw [hepoch]
        exact opened_after hvalid hedge hopens hbranch hoffset

theorem lastOpening_zero {f : Nat} {trace : List (Nat × Int)} (h : Run r f trace) {o : Int}
    (ho : lastOpening 0 trace = some o) : o = 0 := by
  induction h with
  | start _ _ => simpa [lastOpening] using ho.symm
  | step _ _ _ ih =>
    rw [lastOpening, if_neg (by simp [ApState.epochAtJoin, ApState.epochAfter])] at ho
    exact ih ho
  | call _ _ _ _ _ _ ih _ =>
    rw [lastOpening, if_neg (by simp [ApState.epochAtJoin, ApState.epochAfter])] at ho
    exact ih ho

/-- A complete run of a function with a known change ends at the offset of its return. -/
theorem Located.offset_of_known (hm : m.Consistent r) {f i : Nat} {n : Int64} {d : Int}
    {past : List (Nat × Int)} {site : Site} (h : Located r m f i d past site)
    (hrun : Run r f ((i, d) :: past)) (hreturn : r.IsReturn i)
    (hchange : m.changes[f]? = some (.known n)) :
    d = site.state.offset.toInt ∧ (0 ≤ site.state.offset → site.state.offset = n) := by
  obtain ⟨hepoch, hoffset⟩ := return_of_known hm hchange h.site_eq h.owner_eq hreturn
  obtain ⟨o, ho, hd⟩ := h.position
  rw [hepoch] at ho
  have hzero := lastOpening_zero hrun ho
  exact ⟨by omega, hoffset⟩

/-- A branch without a call counts on, or opens an epoch. -/
theorem counts_of_moves (hexact : m.Exact r) {i b target : Nat} {site : Site}
    {lib : ConcreteLibfunc} {sig : BranchSignature} {d : Int} {next : ApState}
    {Done : Nat → ApChange → Prop} (hi : m.site? i = some site)
    (hedge : r.Edge i b lib sig target) (hmoves : Moves sig.ap d)
    (hnext : site.after[b]? = some next)
    (heffect : Effect r.program Done i site.state sig.ap next) :
    Counts site.state next i d sig.ap := by
  have hstep := hexact.step hi hedge hnext
  obtain ⟨outputs, ap⟩ := sig
  cases hmoves with
  | known cells =>
    cases heffect
    exact .inl ⟨rfl, hstep⟩
  | enable =>
    cases heffect
    exact .inr ⟨rfl, rfl, trivial⟩
  | disable =>
    cases heffect
    exact .inl ⟨rfl, (Int.add_zero _).symm⟩

/-- A call whose callee does what was recorded counts on, or opens an epoch. -/
theorem counts_of_call (hexact : m.Exact r) {i b target g : Nat} {site : Site}
    {lib : ConcreteLibfunc} {sig : BranchSignature} {callee : Ident} {d : Int} {next : ApState}
    (hi : m.site? i = some site) (hedge : r.Edge i b lib sig target) (hap : sig.ap = .call callee)
    (hg : r.program.functionIndex? callee = some g)
    (hcallee : ∀ n, m.changes[g]? = some (.known n) → d = n.toInt)
    (hnext : site.after[b]? = some next)
    (heffect : Effect r.program (fun g c => m.changes[g]? = some c) i site.state sig.ap next) :
    Counts site.state next i (2 + d) sig.ap := by
  have hstep := hexact.step hi hedge hnext
  rw [hap] at heffect hstep ⊢
  cases heffect with
  | freshCall => exact .inr ⟨rfl, rfl, trivial⟩
  | @doneCall _ g' change hg' hchange =>
    cases change with
    | unknown => exact .inr ⟨rfl, rfl, trivial⟩
    | known n =>
      obtain rfl : g = g' := Option.some.inj (hg.symm.trans hg')
      obtain ⟨hframe, hsum⟩ := hstep g hg _ hchange rfl
      refine .inl ⟨rfl, ?_⟩
      calc (site.state.offset + (n + ApState.callFrame)).toInt
          = site.state.offset.toInt + (n.toInt + ApState.callFrame.toInt) := by rw [hsum, hframe]
        _ = site.state.offset.toInt + (d + 2) := by rw [hcallee n hchange]; rfl
        _ = site.state.offset.toInt + (2 + d) := by rw [Int.add_comm d 2]

/-- If the complete runs of functions with a known change do what was recorded, every run is where
the recorded position says. -/
theorem located_of_run (hvalid : r.Valid) (hm : m.Consistent r) (hexact : m.Exact r)
    (hreturns : ∀ {g i : Nat} {n : Int64} {d : Int} {site : Site},
      m.changes[g]? = some (.known n) → CompleteRun r g i d → m.site? i = some site →
      d = site.state.offset.toInt → (0 ≤ site.state.offset → site.state.offset = n) →
      d = n.toInt)
    {f : Nat} {trace : List (Nat × Int)} (h : Run r f trace) :
    ∀ {i a past}, trace = (i, a) :: past → ∃ site, Located r m f i a past site := by
  induction h with
  | @start f function hfunction hlt =>
    rintro i a past ⟨⟩
    obtain ⟨site, hsite, howner, hstate | hstate⟩ := hm.entry hfunction hlt
    · refine ⟨site, hsite, howner, ⟨0, ?_, ?_⟩, ?_⟩
      · simp [lastOpening, hstate, ApState.entry]
      · simp [hstate, ApState.entry]
      · rw [hstate]
        exact opened_entry r m
    · exact ⟨site, located_join hsite howner hstate⟩
  | step hrun hedge hmoves ih =>
    rintro _ _ _ ⟨⟩
    obtain ⟨site, hlocated⟩ := ih rfl
    exact hlocated.step hvalid hm hedge fun next hnext heffect =>
      counts_of_moves hexact hlocated.site_eq hedge hmoves hnext heffect
  | call hrun hedge hap hg hinner hreturn ih ihcallee =>
    rintro _ _ _ ⟨⟩
    obtain ⟨site, hlocated⟩ := ih rfl
    obtain ⟨siteg, hlocatedg⟩ := ihcallee rfl
    refine hlocated.step hvalid hm hedge fun next hnext heffect =>
      counts_of_call hexact hlocated.site_eq hedge hap hg (fun n hchange => ?_) hnext heffect
    obtain ⟨hd, hoffset⟩ := hlocatedg.offset_of_known hm hinner hreturn hchange
    exact hreturns hchange ⟨hreturn, _, hinner⟩ hlocatedg.site_eq hd hoffset

end Ap

/-- On a program whose offsets do not wrap, what the analysis records is right on every run exactly
if no complete run of a function with a known change ends at another negative offset. -/
theorem soundOnRuns_iff {p : Program} {r : Registry} {m : Metadata}
    (hbuild : Registry.build p = .ok r) (hanalyze : analyze r = .ok m) (hexact : m.Exact r) :
    m.SoundOnRuns r ↔ m.NegativeReturnsAgree r := by
  have hvalid := (Registry.build_valid hbuild).2
  have hm := analyze_consistent hanalyze
  constructor
  · intro hsound f i n d s hchange hcomplete hstate hneg
    obtain ⟨hreturn, past, hrun⟩ := hcomplete
    obtain ⟨site, hlocated⟩ := Ap.located_of_run hvalid hm hexact
      (fun hchange hcomplete _ _ _ => hsound.change hchange hcomplete) hrun rfl
    obtain ⟨hd, -⟩ := hlocated.offset_of_known hm hrun hreturn hchange
    obtain rfl : site.state = s := by
      simpa [Metadata.state?, hlocated.site_eq] using hstate
    rw [← Int64.toInt_inj, ← hd]
    exact hsound.change hchange ⟨hreturn, past, hrun⟩
  · intro hagree
    have hreturns : ∀ {g i : Nat} {n : Int64} {d : Int} {site : Ap.Site},
        m.changes[g]? = some (.known n) → Ap.CompleteRun r g i d → m.site? i = some site →
        d = site.state.offset.toInt → (0 ≤ site.state.offset → site.state.offset = n) →
        d = n.toInt := by
      intro g i n d site hchange hcomplete hsite hd hoffset
      have hstate : m.state? i = some site.state := by
        rw [Metadata.state?, hsite, Option.map_some]
      by_cases hneg : site.state.offset < 0
      · rw [hd, hagree hchange hcomplete hstate hneg]
      · rw [hd, hoffset (Int64.not_lt.mp hneg)]
    refine ⟨?_, ?_⟩
    · rintro f i n d hchange ⟨hreturn, past, hrun⟩
      obtain ⟨site, hlocated⟩ := Ap.located_of_run hvalid hm hexact hreturns hrun rfl
      obtain ⟨hd, hoffset⟩ := hlocated.offset_of_known hm hrun hreturn hchange
      exact hreturns hchange ⟨hreturn, past, hrun⟩ hlocated.site_eq hd hoffset
    · intro f i a past hrun
      obtain ⟨site, hlocated⟩ := Ap.located_of_run hvalid hm hexact hreturns hrun rfl
      obtain ⟨o, ho, ha⟩ := hlocated.position
      exact ⟨site.state, o, by rw [Metadata.state?, hlocated.site_eq, Option.map_some], ho, ha⟩

/-- The analysis of `relay` is right on every run. -/
theorem soundOnRuns_relay :
    ∃ r m, Registry.build relay = .ok r ∧ analyze r = .ok m ∧ m.Exact r ∧
      m.changes = [.unknown, .known 2] ∧ m.SoundOnRuns r := by
  obtain ⟨r, hbuild, hr⟩ : ∃ r, Registry.build relay = .ok r ∧
      ((analyze r).toOption.any fun m => m.changes == [.unknown, .known 2] && (decide (m.Exact r) &&
        m.sites.all fun site => site.all fun site => decide (0 ≤ site.state.offset))) = true :=
    exists_of_toOption_any (by decide +kernel)
  obtain ⟨m, hanalyze, hm⟩ := exists_of_toOption_any hr
  rw [Bool.and_eq_true, Bool.and_eq_true, beq_iff_eq, decide_eq_true_eq] at hm
  obtain ⟨hchanges, hexact, hnonneg⟩ := hm
  refine ⟨r, m, hbuild, hanalyze, hexact, hchanges,
    (soundOnRuns_iff hbuild hanalyze hexact).mpr fun _ _ hstate hneg => ?_⟩
  simp only [Metadata.state?, Metadata.site?, Option.map_eq_some_iff] at hstate
  obtain ⟨site, hsite, rfl⟩ := hstate
  have hmem := List.mem_of_getElem? (Option.join_eq_some_iff.mp hsite)
  have hsome := List.all_eq_true.mp hnonneg _ hmem
  rw [Option.all_some, decide_eq_true_eq] at hsome
  exact absurd hneg (Int64.not_lt.mpr hsome)

/-! ### A negative offset that is not compared -/

/-- The libfuncs of `wrappedSizes`. -/
def wrappedLibfuncs : List (Ident × ConcreteLibfunc) :=
  [({ id := 0 },
    { operation := .felt252IsZero
      signature :=
        { params := [{ id := 0 }]
          branches := [⟨[], .known 0⟩, ⟨[{ id := 1 }], .known 0⟩]
          fallthrough := some 0 }
      type := some { id := 0 } }),
   ({ id := 1 },
    { operation := .storeTemp
      signature := .single [{ id := 30 }] [{ id := 30 }] (.known Int64.minValue)
      type := some { id := 30 } })]

/-- No offset of `wrappedSizes` wraps, and the change of its function is recorded as `0`, but the
path that stores the struct moves `ap` by `-2 ^ 63`. -/
theorem change_of_wrappedSizes :
    ∃ r m, Registry.build wrappedSizes = .ok r ∧ analyze r = .ok m ∧ m.Exact r ∧
      m.changes = [.known 0] ∧ Ap.CompleteRun r 0 2 (-2 ^ 63) ∧ ¬ m.SoundOnRuns r := by
  obtain ⟨r, hbuild, hr⟩ : ∃ r, Registry.build wrappedSizes = .ok r ∧
      (r.libfuncs == wrappedLibfuncs && (analyze r).toOption.any fun m =>
        m.changes == [.known 0] && decide (m.Exact r)) = true :=
    exists_of_toOption_any (by decide +kernel)
  rw [Bool.and_eq_true, beq_iff_eq] at hr
  obtain ⟨hlibfuncs, hr⟩ := hr
  obtain ⟨m, hanalyze, hm⟩ := exists_of_toOption_any hr
  rw [Bool.and_eq_true, beq_iff_eq, decide_eq_true_eq] at hm
  obtain ⟨hchanges, hexact⟩ := hm
  have hprogram := (Registry.build_valid hbuild).1
  have hstatement : ∀ i : Nat, r.program.statements[i]? = wrappedSizes.statements[i]? :=
    fun i => by rw [hprogram]
  have hlibfunc : ∀ id, r.libfunc? id = Registry.findIdent wrappedLibfuncs id :=
    fun id => by rw [Registry.libfunc?, hlibfuncs]
  have htest : r.Edge 0 0 _ ⟨[], .known 0⟩ 1 :=
    ⟨_, _, hstatement 0, hlibfunc { id := 0 }, rfl, rfl, rfl⟩
  have hstore : r.Edge 1 0 _ ⟨[{ id := 30 }], .known Int64.minValue⟩ 2 :=
    ⟨_, _, hstatement 1, hlibfunc { id := 1 }, rfl, rfl, rfl⟩
  have hentry : r.program.functions[0]? = wrappedSizes.functions[0]? := by rw [hprogram]
  have hstart : Ap.Run r 0 [(0, 0)] := .start hentry (by rw [hprogram]; decide)
  have hrun : Ap.Run r 0 [(2, -2 ^ 63), (1, 0), (0, 0)] :=
    (hstart.step htest (.known 0)).step hstore (.known Int64.minValue)
  have hcomplete : Ap.CompleteRun r 0 2 (-2 ^ 63) := ⟨⟨_, hstatement 2⟩, _, hrun⟩
  refine ⟨r, m, hbuild, hanalyze, hexact, hchanges, hcomplete, fun hsound => ?_⟩
  have := hsound.change (f := 0) (n := 0) (by rw [hchanges]; rfl) hcomplete
  revert this
  decide

end SierraCasm
