import SierraCasm.Proofs.Ap.Paths

/-! # Reached statements and their positions

The statements that are recorded for a function are those that it can reach along branches
(`owner_iff_canReach`).  A walk reaches nothing else, since every site lies on a path
(`Occurs.traces`), and leaves nothing out, since the target of every branch of a recorded statement
is recorded.

When the walk through a function ends, the positions after the branches of its statements are those
that the branches lead to from the final positions (`WalkEnds.advances`).  They were recorded when a
statement was last taken up; since then callees were resolved, which does not change where a branch
leads, and if the position at the statement changed, it is pending (`Moment.Current`). -/

namespace SierraCasm.Ap

open Sierra Concrete

/-! ### Positions after branches -/

/-- In `s`, where no callee is left to be resolved, a branch of statement `i` leads from position
`at'` to `next`. -/
def BranchLeads (r : Registry) (depth : Nat) (s : Progress) (i : Nat) (at' : ApState)
    (b : Branch × BranchSignature) (next : ApState) : Prop :=
  advance r.program (resolve r depth) i at' b.2.ap s = .ok (next, s)

/-- If statement `j` is one of function `f`, the positions recorded after its branches are those
that they lead to. -/
def UpToDate (r : Registry) (depth f : Nat) (s : Progress) (j : Nat) : Prop :=
  ∀ site inv lib, s.site? j = some site → site.owner = f →
    r.program.statements[j]? = some (.invoke inv) → r.libfunc? inv.libfunc = some lib →
    List.Forall₂ (BranchLeads r depth s j site.state) (inv.branches.zip lib.signature.branches)
      site.after

/-- The statements of the function that is walked through are up to date unless they are pending,
and so are the branches behind of the statement that was taken up. -/
def Moment.Current (r : Registry) : Moment → Prop
  | .resolve _ _ _ => True
  | .walk depth f w => ∀ j, j ∉ w.pending → UpToDate r depth f w.progress j
  | .follow depth f i at' after bs w =>
      (∀ j, j ≠ i → j ∉ w.pending → UpToDate r depth f w.progress j) ∧
      ∃ inv lib before, r.program.statements[i]? = some (.invoke inv) ∧
        r.libfunc? inv.libfunc = some lib ∧ inv.branches.zip lib.signature.branches = before ++ bs ∧
        List.Forall₂ (BranchLeads r depth w.progress i at') before after

section current

variable {r : Registry} {Open : Nat → Prop} {depth f i : Nat} {s s' : Progress}

theorem forall₂_branchLeads_mono {at' : ApState} {bs : List (Branch × BranchSignature)}
    {after : List ApState} (hinv : Inv r Open s)
    (hlater : ∀ g, s.status g ≠ .unvisited → s'.status g = s.status g)
    (h : List.Forall₂ (BranchLeads r depth s i at') bs after) :
    List.Forall₂ (BranchLeads r depth s' i at') bs after :=
  h.imp fun _ _ hadvance => advance_later hinv hadvance hlater

theorem Moment.Current.next {x y : Moment} (hoccurs : Occurs r x) (hx : x.Current r)
    (h : x.Next r y) : y.Current r := by
  cases h with
  | enter hunvisited hfunction hlt hmerge =>
    obtain ⟨Open, hinv⟩ := hoccurs.sound
    intro j hj site inv lib hsite howner
    obtain ⟨rfl, -⟩ := hinv.site_of_enter hunvisited hfunction hlt hmerge hsite howner
    exact absurd List.mem_cons_self hj
  | @noteReturn _ _ i w rest _ _ hpending _ hret =>
    intro j hj site inv lib hsite howner hinvoke
    refine hx j (fun hmem => ?_) site inv lib hsite howner hinvoke
    rw [hpending, List.mem_cons] at hmem
    rcases hmem with rfl | hmem
    · rw [hret] at hinvoke
      cases hinvoke
    · exact hj hmem
  | takeUp hpending hsite hinvoke hlib =>
    refine ⟨fun j hne hj => hx j ?_, _, _, [], hinvoke, hlib, rfl, .nil⟩
    rw [hpending, List.mem_cons]
    exact fun hmem => hmem.elim hne hj
  | call _ _ => exact trivial
  | @arrive depth f i at' next after branch sig bs w w' s hadvance hlt harrive =>
    obtain ⟨Open, hfollow⟩ := hoccurs.sound
    obtain ⟨-, hgrows⟩ := hfollow.arrive hadvance hlt harrive
    have hinv := hfollow.walk.inv
    obtain ⟨hothers, inv, lib, before, hinvoke, hlib, hzip, hbefore⟩ := hx
    refine ⟨fun j hne hj site inv lib hsite howner hinvoke hlib => ?_, inv, lib,
      before ++ [(branch, sig)], hinvoke, hlib, ?_, ?_⟩
    · rcases hfollow.site_of_arrive hadvance hlt harrive hsite howner with hold | ⟨-, hmem, -⟩
      · exact forall₂_branchLeads_mono hinv hgrows.progress.status
          (hothers j hne (fun hmem => hj (hgrows.pending j hmem)) site inv lib hold howner hinvoke
            hlib)
      · exact absurd hmem hj
    · rw [hzip, List.append_assoc, List.singleton_append]
    · exact List.rel_append (forall₂_branchLeads_mono hinv hgrows.progress.status hbefore)
        (.cons (advance_arrived hinv hadvance harrive) .nil)
  | @settle depth f i at' after w =>
    obtain ⟨Open, hfollow⟩ := hoccurs.sound
    obtain ⟨-, hext⟩ := hfollow.settle
    obtain ⟨site₀, hsite₀, howner₀, hstate₀⟩ := hfollow.site
    obtain ⟨hothers, inv₀, lib₀, before, hinvoke₀, hlib₀, hzip, hbefore⟩ := hx
    intro j hj site inv lib hsite howner hinvoke hlib
    refine forall₂_branchLeads_mono hfollow.walk.inv hext.status ?_
    rcases site_of_setAfter (by rw [hsite₀]; rfl) hsite with ⟨hne, hold⟩ | ⟨rfl, site₁, hold, rfl⟩
    · exact hothers j hne hj site inv lib hold howner hinvoke hlib
    · -- If the position had changed since the statement was taken up, it would be pending.
      rw [hsite₀] at hold
      cases hold
      rw [hinvoke₀] at hinvoke
      cases hinvoke
      rw [hlib₀] at hlib
      cases hlib
      rw [hzip, List.append_nil]
      rcases hstate₀ with hstate | ⟨-, hmem⟩
      · rw [hstate]
        exact hbefore
      · exact absurd hmem hj

theorem Occurs.current {x : Moment} (h : Occurs r x) : x.Current r := by
  induction h with
  | root _ _ => exact trivial
  | next hoccurs hnext ih => exact ih.next hoccurs hnext

end current

section ends

variable {r : Registry} {m : Metadata} {depth f i b target : Nat} {lib : ConcreteLibfunc}
  {sig : BranchSignature} {w : Walk}

/-- When a walk ends, the positions recorded after branches are those that they lead to. -/
theorem WalkEnds.advances {site : Site} (hw : WalkEnds r depth f w)
    (hsite : w.progress.site? i = some site) (howner : site.owner = f)
    (hedge : r.Edge i b lib sig target) : ∃ next, site.after[b]? = some next ∧
      advance r.program (resolve r depth) i site.state sig.ap w.progress =
        .ok (next, w.progress) := by
  obtain ⟨hoccurs, hpending⟩ := hw
  obtain ⟨inv, branch, hinvoke, hlib, hbranch, hsig, -⟩ := hedge
  have hcurrent := hoccurs.current i (by rw [hpending]; exact List.not_mem_nil) site inv lib hsite
    howner hinvoke hlib
  exact exists_of_forall₂_zip hcurrent hbranch hsig

/-! ### Reached statements -/

theorem owner?_eq_some_iff : m.owner? i = some f ↔ ∃ site, m.site? i = some site ∧ site.owner = f :=
  Option.map_eq_some_iff

theorem canReach_of_site (h : analyze r = .ok m) {site : Site} (hi : m.site? i = some site) :
    r.CanReach site.owner i := by
  obtain ⟨depth, w, hw⟩ := exists_walkEnds h (hasBody_of_site h hi)
  obtain ⟨path, t, hpath⟩ :=
    (hw.1.traces i site (((hw.records h).site rfl).mp hi) rfl).exists_path
  exact hpath.canReach

theorem owner_of_canReach (hm : m.Consistent r) (h : r.CanReach f i) : m.owner? i = some f := by
  induction h with
  | entry hfunction hlt =>
    obtain ⟨site, hsite, howner, -⟩ := hm.entry hfunction hlt
    exact owner?_eq_some_iff.mpr ⟨site, hsite, howner⟩
  | branch _ hedge ih =>
    obtain ⟨site, hsite, howner⟩ := owner?_eq_some_iff.mp ih
    obtain ⟨-, site', -, -, hsite', howner', -⟩ := hm.edge hsite hedge
    exact owner?_eq_some_iff.mpr ⟨site', hsite', howner'.trans howner⟩

theorem target_lt_of_canReach (h : analyze r = .ok m) (hreach : r.CanReach f i)
    (hedge : r.Edge i b lib sig target) : target < r.program.statements.length := by
  obtain ⟨site, hsite, -⟩ :=
    owner?_eq_some_iff.mp (owner_of_canReach (analyze_consistent h) (hreach.branch hedge))
  obtain ⟨s, rfl, hinv, -⟩ := analyze_inv h
  rw [← hinv.length_sites]
  exact Progress.lt_of_site? hsite

theorem owner_iff_canReach (h : analyze r = .ok m) : m.owner? i = some f ↔ r.CanReach f i := by
  refine ⟨fun howner => ?_, owner_of_canReach (analyze_consistent h)⟩
  obtain ⟨site, hsite, rfl⟩ := owner?_eq_some_iff.mp howner
  exact canReach_of_site h hsite

end ends

end SierraCasm.Ap

namespace SierraCasm

open Sierra Concrete Ap

/-- The statements that are recorded are those that functions reach, and the positions recorded for
them are a fixpoint of propagation along branches, from `.entry` at the entries of functions.  The
callees of a function have the changes that are known when the walk through it ends. -/
structure Metadata.Fixpoint (r : Registry) (m : Metadata) : Prop where
  reached : ∀ {i : Nat}, (m.state? i).isSome ↔ ∃ f, r.CanReach f i
  owner : ∀ {f i : Nat}, m.owner? i = some f ↔ r.CanReach f i
  walked : ∀ {f i : Nat}, r.CanReach f i → ∃ depth w, WalkEnds r depth f w
  target : ∀ {f i b : Nat} {inv : Invocation} {branch : Branch}, r.CanReach f i →
    r.program.statements[i]? = some (.invoke inv) → inv.branches[b]? = some branch →
    0 ≤ branch.target.resolve i ∧ branch.target.resolve i < r.program.statements.length ∧
      ∃ lib sig, r.Edge i b lib sig (branch.target.resolve i).toNat
  branch : ∀ {depth f i b target : Nat} {w : Walk} {lib : ConcreteLibfunc} {sig : BranchSignature},
    WalkEnds r depth f w → r.CanReach f i → r.Edge i b lib sig target →
    ∃ at' next, m.state? i = some at' ∧ m.branchState? i b = some next ∧
      advance r.program (resolve r depth) i at' sig.ap w.progress = .ok (next, w.progress) ∧
      (m.state? target = some next ∨ m.state? target = some (.atJoin target))
  entry : ∀ {f : Nat} {function : Function}, r.program.functions[f]? = some function →
    function.entry.toNat < r.program.statements.length →
    m.state? function.entry.toNat = some .entry ∨
      m.state? function.entry.toNat = some (.atJoin function.entry.toNat)

/-- The analysis of a valid program ends in a fixpoint, with exactly what functions reach. -/
theorem fixpoint_of_analyze {p : Program} {r : Registry} {m : Metadata}
    (hbuild : Registry.build p = .ok r) (hanalyze : analyze r = .ok m) : m.Fixpoint r := by
  have hvalid := (Registry.build_valid hbuild).2
  have hm := analyze_consistent hanalyze
  have howner : ∀ {f i}, m.owner? i = some f ↔ r.CanReach f i := owner_iff_canReach hanalyze
  have hsite : ∀ {f i}, r.CanReach f i → ∃ site, m.site? i = some site ∧ site.owner = f :=
    fun hreach => owner?_eq_some_iff.mp (howner.mpr hreach)
  refine ⟨?_, howner, ?_, ?_, ?_, ?_⟩
  · intro i
    rw [Metadata.state?, Option.isSome_map, Option.isSome_iff_exists]
    constructor
    · rintro ⟨site, hi⟩
      exact ⟨site.owner, canReach_of_site hanalyze hi⟩
    · rintro ⟨f, hreach⟩
      obtain ⟨site, hi, -⟩ := hsite hreach
      exact ⟨site, hi⟩
  · intro f i hreach
    obtain ⟨site, hi, rfl⟩ := hsite hreach
    exact exists_walkEnds hanalyze (hasBody_of_site hanalyze hi)
  · intro f i b inv branch hreach hinvoke hbranch
    obtain ⟨lib, hlib, hinvocation⟩ := hvalid.invocation hinvoke
    obtain ⟨sig, hsig⟩ := hinvocation.exists_signature hbranch
    have hedge : r.Edge i b lib sig (branch.target.resolve i).toNat :=
      ⟨inv, branch, hinvoke, hlib, hbranch, hsig, rfl⟩
    have hnonneg := (hinvocation.branch hbranch hsig).resolve_nonneg i
    have hlt := target_lt_of_canReach hanalyze hreach hedge
    exact ⟨hnonneg, by omega, lib, sig, hedge⟩
  · intro depth f i b target w lib sig hw hreach hedge
    obtain ⟨site, hi, howner'⟩ := hsite hreach
    obtain ⟨next, hnext, hadvance⟩ :=
      hw.advances (((hw.records hanalyze).site howner').mp hi) howner' hedge
    obtain ⟨next', site', hnext', -, hi', -, hstate⟩ := hm.edge hi hedge
    obtain rfl : next = next' := Option.some.inj (hnext.symm.trans hnext')
    refine ⟨site.state, next, ?_, ?_, hadvance, ?_⟩
    · rw [Metadata.state?, hi, Option.map_some]
    · rw [Metadata.branchState?, hi, Option.bind_some, hnext]
    · rw [Metadata.state?, hi', Option.map_some, Option.some_inj, Option.some_inj]
      exact hstate
  · intro f function hfunction hlt
    obtain ⟨site, hi, -, hstate⟩ := hm.entry hfunction hlt
    rw [Metadata.state?, hi, Option.map_some, Option.some_inj, Option.some_inj]
    exact hstate

/-- The statements from `9` on are those of the second function of `relay`, and the statement after
the recursive call is in an epoch of its own. -/
theorem fixpoint_relay :
    ∃ r m, Registry.build relay = .ok r ∧ analyze r = .ok m ∧ m.Fixpoint r ∧
      (∀ i, m.owner? i = some 1 ↔ 9 ≤ i ∧ i < 12) ∧
      m.state? 8 = some { epoch := ApState.epochAfter 7, tracking := true } := by
  obtain ⟨r, hbuild, hr⟩ : ∃ r, Registry.build relay = .ok r ∧
      ((analyze r).toOption.any fun m => decide (m.sites.length = 12) &&
        ((List.range 12).all fun i => decide (m.owner? i = some 1 ↔ 9 ≤ i)) &&
        decide (m.state? 8 = some { epoch := ApState.epochAfter 7, tracking := true })) = true :=
    exists_of_toOption_any (by decide +kernel)
  obtain ⟨m, hanalyze, hm⟩ := exists_of_toOption_any hr
  rw [Bool.and_eq_true, Bool.and_eq_true, decide_eq_true_eq, decide_eq_true_eq] at hm
  obtain ⟨⟨hlength, howner⟩, hstate⟩ := hm
  refine ⟨r, m, hbuild, hanalyze, fixpoint_of_analyze hbuild hanalyze, fun i => ?_, hstate⟩
  by_cases hi : i < 12
  · have hiff := List.all_eq_true.mp howner i (List.mem_range.mpr hi)
    rw [decide_eq_true_eq] at hiff
    rw [hiff]
    exact (and_iff_left hi).symm
  · rw [Metadata.owner?, Metadata.site?, List.getElem?_eq_none (by omega)]
    simp [hi]

end SierraCasm
