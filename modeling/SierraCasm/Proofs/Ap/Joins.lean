import SierraCasm.Proofs.Ap.Reachability

/-! # Joins

A fresh epoch opens at a statement where different positions arrive.  These need not come along
different branches: if paths join at a statement after its branches were followed, the branches are
followed again, and lead to another position than the first time.  So even a statement with a
single branch leading to it is in the epoch of a join of its own if that branch was once followed to
another position (`state_eq_branchState_iff`), which happens only after a statement where paths
join.

Every position at a statement comes from positions that arrived there (`Occurs.arrivals`), and those
that arrive along a branch are where the branch led in the course of the analysis (`LedTo`).  The
epoch of the join at a statement does not arrive there along its only branch: the statement before
can be reached without it (`branchState_ne_atJoin`). -/

namespace SierraCasm

open Sierra Concrete

/-- Function `f` can reach statement `i` without statement `t`. -/
inductive Registry.CanAvoid (r : Registry) (f t : Nat) : Nat → Prop
  | entry {function : Function} : r.program.functions[f]? = some function →
      function.entry.toNat < r.program.statements.length → function.entry.toNat ≠ t →
      CanAvoid r f t function.entry.toNat
  | branch {i b target : Nat} {lib : ConcreteLibfunc} {sig : BranchSignature} :
      CanAvoid r f t i → r.Edge i b lib sig target → target ≠ t → CanAvoid r f t target

/-- Branch `b` of the reached statement `i` is the only one of a reached statement that leads to
`t`, and no function starts there. -/
structure Metadata.OnlyEdge (r : Registry) (m : Metadata) (i b t : Nat) : Prop where
  reached : (m.state? i).isSome
  edge : ∃ lib sig, r.Edge i b lib sig t
  only : ∀ {i' b' : Nat} {lib : ConcreteLibfunc} {sig : BranchSignature}, (m.state? i').isSome →
    r.Edge i' b' lib sig t → i' = i ∧ b' = b
  no_entry : ∀ function ∈ r.program.functions, function.entry.toNat ≠ t

/-- The branches that lead to statement `t`, by their statements and their positions there. -/
def Sierra.Program.edgesTo (p : Program) (t : Nat) : List (Nat × Nat) :=
  (List.range p.statements.length).flatMap fun (i : Nat) =>
    match p.statements[i]? with
    | some (.invoke inv) =>
      ((List.range inv.branches.length).filter fun b =>
        inv.branches[b]?.any fun branch => (branch.target.resolve i).toNat = t).map (i, ·)
    | _ => []

theorem mem_edgesTo_iff {r : Registry} {i b t : Nat} (hvalid : r.Valid) :
    (i, b) ∈ r.program.edgesTo t ↔ ∃ lib sig, r.Edge i b lib sig t := by
  simp only [Program.edgesTo, List.mem_flatMap, List.mem_range]
  constructor
  · rintro ⟨j, -, hmem⟩
    split at hmem
    · rename_i inv hinvoke
      simp only [List.mem_map, List.mem_filter, Option.any_eq_true, decide_eq_true_eq,
        Prod.mk.injEq] at hmem
      obtain ⟨b, ⟨-, branch, hbranch, htarget⟩, rfl, rfl⟩ := hmem
      obtain ⟨lib, hlib, hinvocation⟩ := hvalid.invocation hinvoke
      obtain ⟨sig, hsig⟩ := hinvocation.exists_signature hbranch
      exact ⟨lib, sig, inv, branch, hinvoke, hlib, hbranch, hsig, htarget⟩
    · cases hmem
  · rintro ⟨lib, sig, inv, branch, hinvoke, -, hbranch, -, htarget⟩
    refine ⟨i, (List.getElem?_eq_some_iff.mp hinvoke).1, ?_⟩
    simp only [hinvoke, List.mem_map, List.mem_filter, List.mem_range]
    exact ⟨b, ⟨(List.getElem?_eq_some_iff.mp hbranch).1, by simp [hbranch, htarget]⟩, rfl⟩

theorem onlyEdge_of_edgesTo {p : Program} {r : Registry} {m : Metadata} {i b t : Nat}
    (hbuild : Registry.build p = .ok r) (hedges : p.edgesTo t = [(i, b)])
    (hentry : ∀ function ∈ p.functions, function.entry.toNat ≠ t)
    (hreached : (m.state? i).isSome) : m.OnlyEdge r i b t := by
  obtain ⟨rfl, hvalid⟩ := Registry.build_valid hbuild
  refine ⟨hreached, ?_, fun {i' b' lib sig} _ hedge => ?_, hentry⟩
  · rw [← mem_edgesTo_iff hvalid, hedges]
    exact List.mem_cons_self
  · have hmem := (mem_edgesTo_iff hvalid).mpr ⟨lib, sig, hedge⟩
    rwa [hedges, List.mem_singleton, Prod.mk.injEq] at hmem

namespace Ap

/-! ### Arrivals -/

/-- In the course of the analysis branch `b` of statement `i` is followed to position `next`. -/
def LedTo (r : Registry) (i b : Nat) (next : ApState) : Prop :=
  ∃ depth f at' after bs w, Occurs r (.follow depth f i at' after bs w) ∧ after[b]? = some next

/-- In the course of the analysis statement `j` is reached at a position, as the entry of a function
or along a branch. -/
inductive Arrived (r : Registry) (j : Nat) : ApState → Prop
  | entry {function : Function} : function ∈ r.program.functions → function.entry.toNat = j →
      Arrived r j .entry
  | branch {i b : Nat} {lib : ConcreteLibfunc} {sig : BranchSignature} {next : ApState} :
      r.Edge i b lib sig j → LedTo r i b next → Arrived r j next

/-- A position arrived at statement `j`, or it is that of a join of two that did. -/
def FromArrivals (r : Registry) (j : Nat) (s : ApState) : Prop :=
  Arrived r j s ∨ s = .atJoin j ∧ ∃ next next', Arrived r j next ∧ Arrived r j next' ∧ next ≠ next'

/-- The positions in the function that is walked through come from arrivals. -/
def Moment.Arrivals (r : Registry) : Moment → Prop
  | .resolve _ _ _ => True
  | .walk _ f w | .follow _ f _ _ _ _ w => ∀ j site, w.progress.site? j = some site →
      site.owner = f → FromArrivals r j site.state

section arrivals

variable {r : Registry} {j : Nat}

/-- Where another position than the recorded one arrives, two have arrived. -/
theorem FromArrivals.join {s next : ApState} (h : FromArrivals r j s) (hnext : Arrived r j next)
    (hne : s ≠ next) : FromArrivals r j (.atJoin j) := by
  rcases h with harrived | ⟨-, htwo⟩
  · exact .inr ⟨rfl, s, next, harrived, hnext, hne⟩
  · exact .inr ⟨rfl, htwo⟩

theorem Moment.Arrivals.next {x y : Moment} (hoccurs : Occurs r x) (hx : x.Arrivals r)
    (h : x.Next r y) : y.Arrivals r := by
  cases h with
  | enter hunvisited hfunction hlt hmerge =>
    obtain ⟨Open, hinv⟩ := hoccurs.sound
    intro j site hj howner
    obtain ⟨rfl, hstate⟩ := hinv.site_of_enter hunvisited hfunction hlt hmerge hj howner
    rw [hstate]
    exact .inl (.entry (List.mem_of_getElem? hfunction) rfl)
  | noteReturn _ _ _ => exact hx
  | takeUp _ _ _ _ => exact hx
  | call _ _ => exact trivial
  | @arrive depth f i at' next after branch sig bs w w' s hadvance hlt harrive =>
    obtain ⟨Open, hfollow⟩ := hoccurs.sound
    obtain ⟨lib, hedge⟩ := hfollow.edge
    have hled : LedTo r i after.length next :=
      ⟨_, _, _, _, _, _, hoccurs.next (.arrive hadvance hlt harrive), by
        rw [List.getElem?_append_right (Nat.le_refl _), Nat.sub_self]
        rfl⟩
    intro j site hj howner
    rcases hfollow.site_of_arrive hadvance hlt harrive hj howner with
      hold | ⟨rfl, -, hnext | ⟨hjoin, site₀, hsite₀, howner₀, hne⟩⟩
    · exact hx j site hold howner
    · rw [hnext]
      exact .inl (.branch hedge hled)
    · rw [hjoin]
      exact (hx _ site₀ hsite₀ howner₀).join (.branch hedge hled) hne
  | @settle depth f i at' after w =>
    obtain ⟨Open, hfollow⟩ := hoccurs.sound
    obtain ⟨site₀, hsite₀, -, -⟩ := hfollow.site
    intro j site hj howner
    rcases site_of_setAfter (by rw [hsite₀]; rfl) hj with ⟨-, hold⟩ | ⟨rfl, site₁, hold, rfl⟩
    · exact hx j site hold howner
    · exact hx j site₁ hold howner

theorem Occurs.arrivals {x : Moment} (h : Occurs r x) : x.Arrivals r := by
  induction h with
  | root _ _ => exact trivial
  | next hoccurs hnext ih => exact ih.next hoccurs hnext

theorem fromArrivals_of_site {m : Metadata} {site : Site} (h : analyze r = .ok m)
    (hj : m.site? j = some site) : FromArrivals r j site.state := by
  obtain ⟨depth, w, hw⟩ := exists_walkEnds h (hasBody_of_site h hj)
  exact hw.1.arrivals j site (((hw.records h).site rfl).mp hj) rfl

end arrivals

/-! ### Where branches led -/

section led

variable {r : Registry} {m : Metadata} {i b t : Nat} {lib : ConcreteLibfunc}
  {sig : BranchSignature} {next : ApState}

theorem rel_of_edge {R : Branch × BranchSignature → ApState → Prop} {inv : Invocation}
    {lib' : ConcreteLibfunc} {before bs : List (Branch × BranchSignature)} {after : List ApState}
    (hinvoke : r.program.statements[i]? = some (.invoke inv))
    (hlib : r.libfunc? inv.libfunc = some lib')
    (hzip : inv.branches.zip lib'.signature.branches = before ++ bs)
    (hrel : List.Forall₂ R before after) (hedge : r.Edge i b lib sig t)
    (hb : after[b]? = some next) :
    ∃ branch, R (branch, sig) next ∧ (branch.target.resolve i).toNat = t := by
  obtain ⟨inv', branch, hinvoke', hlib', hbranch, hsig, htarget⟩ := hedge
  rw [hinvoke] at hinvoke'
  cases hinvoke'
  rw [hlib] at hlib'
  cases hlib'
  obtain ⟨hlt, hget⟩ := List.getElem?_eq_some_iff.mp hb
  have hlt' : b < before.length := by rwa [hrel.length_eq]
  have hbefore : before[b]? = some (branch, sig) := by
    rw [← List.getElem?_append_left hlt', ← hzip, List.getElem?_zip_eq_some]
    exact ⟨hbranch, hsig⟩
  have hpair := hrel.get hlt' hlt
  simp only [List.get_eq_getElem, hget, (List.getElem?_eq_some_iff.mp hbefore).2] at hpair
  exact ⟨branch, hpair, htarget⟩

theorem LedTo.reached (h : LedTo r i b next) (hanalyze : analyze r = .ok m) :
    (m.state? i).isSome := by
  obtain ⟨depth, f, at', after, bs, w, hoccurs, -⟩ := h
  obtain ⟨w', hends, hext⟩ := hoccurs.exists_walkEnds hanalyze
  obtain ⟨Open, hfollow⟩ := hoccurs.sound
  obtain ⟨site, hsite, howner, -⟩ := hfollow.site
  obtain ⟨site', hsite', howner', -⟩ := hext.own i site hsite howner
  rw [Metadata.state?, ((hends.records hanalyze).site howner').mpr hsite']
  rfl

/-- The target of a branch is recorded at each position that the branch led to, or at a join. -/
theorem LedTo.target (h : LedTo r i b next) (hanalyze : analyze r = .ok m)
    (hedge : r.Edge i b lib sig t) :
    m.state? t = some next ∨ m.state? t = some (.atJoin t) := by
  obtain ⟨depth, f, at', after, bs, w, hoccurs, hb⟩ := h
  obtain ⟨w', hends, hext⟩ := hoccurs.exists_walkEnds hanalyze
  obtain ⟨Open, hfollow⟩ := hoccurs.sound
  obtain ⟨inv, lib', before, hinvoke, hlib, hzip, hleads⟩ := hfollow.branches
  obtain ⟨branch, hleads, rfl⟩ := rel_of_edge hinvoke hlib hzip hleads hedge hb
  obtain ⟨-, site, hsite, howner, hstate⟩ := hleads.mono hext
  rw [Metadata.state?, ((hends.records hanalyze).site howner).mpr hsite, Option.map_some,
    Option.some_inj, Option.some_inj]
  exact hstate

/-- If paths do not join at a statement, its branches led to the recorded positions only. -/
theorem LedTo.branchState (h : LedTo r i b next) (hanalyze : analyze r = .ok m)
    (hedge : r.Edge i b lib sig t) (hjoin : m.state? i ≠ some (.atJoin i)) :
    m.branchState? i b = some next := by
  obtain ⟨depth, f, at', after, bs, w, hoccurs, hb⟩ := h
  obtain ⟨w', hends, hext⟩ := hoccurs.exists_walkEnds hanalyze
  obtain ⟨Open, hfollow⟩ := hoccurs.sound
  obtain ⟨-, inv, lib', before, hinvoke, hlib, hzip, hleads⟩ := hoccurs.current
  obtain ⟨branch, hleads, -⟩ := rel_of_edge hinvoke hlib hzip hleads hedge hb
  -- The statement was taken up at the position that it has in the end.
  obtain ⟨site, hsite, howner, hstate⟩ := hfollow.site
  obtain ⟨site', hsite', howner', hstate'⟩ := hext.own i site hsite howner
  have hrecorded := ((hends.records hanalyze).site howner').mpr hsite'
  rw [Metadata.state?, hrecorded, Option.map_some, ne_eq, Option.some_inj] at hjoin
  have hsame := hstate'.resolve_right hjoin
  rw [hsame] at hjoin
  have htaken : site'.state = at' := hsame.trans (hstate.resolve_right fun h => hjoin h.1)
  obtain ⟨next', hnext', hadvance'⟩ := hends.advances hsite' howner' hedge
  have hadvance := advance_later hfollow.walk.inv hleads hext.status
  rw [htaken, hadvance] at hadvance'
  cases hadvance'
  rw [Metadata.branchState?, hrecorded, Option.bind_some, hnext']

/-! ### Epochs of joins -/

/-- The epoch of the join at a statement is not that of a statement which can be reached without
it. -/
theorem epoch_ne_of_canAvoid {f : Nat} (hm : m.Consistent r) (h : r.CanAvoid f t i) :
    ∃ site, m.site? i = some site ∧ site.state.epoch ≠ ApState.epochAtJoin t := by
  have hjoin : ∀ {j}, j ≠ t → (ApState.atJoin j).epoch ≠ ApState.epochAtJoin t := by
    intro j hne heq
    simp only [ApState.atJoin, ApState.epochAtJoin] at heq
    omega
  induction h with
  | entry hfunction hlt hne =>
    obtain ⟨site, hsite, -, hstate | hstate⟩ := hm.entry hfunction hlt
    · refine ⟨site, hsite, ?_⟩
      rw [hstate]
      simp [ApState.entry, ApState.epochAtJoin]
    · exact ⟨site, hsite, by rw [hstate]; exact hjoin hne⟩
  | branch _ hedge hne ih =>
    obtain ⟨site, hsite, hepoch⟩ := ih
    obtain ⟨next, site', -, heffect, hsite', -, hstate | hstate⟩ := hm.edge hsite hedge
    · refine ⟨site', hsite', ?_⟩
      rw [hstate]
      rcases heffect.epoch with heq | heq
      · rwa [heq]
      · rw [heq]
        simp only [ApState.epochAfter, ApState.epochAtJoin]
        omega
    · exact ⟨site', hsite', by rw [hstate]; exact hjoin hne⟩

/-- A branch of such a statement does not lead into the epoch of the join. -/
theorem branchState_ne_atJoin {f target : Nat} (hm : m.Consistent r) (h : r.CanAvoid f t i)
    (hedge : r.Edge i b lib sig target) : m.branchState? i b ≠ some (.atJoin t) := by
  obtain ⟨site, hsite, hne⟩ := epoch_ne_of_canAvoid hm h
  obtain ⟨next, site', hnext, heffect, -⟩ := hm.edge hsite hedge
  rw [Metadata.branchState?, hsite, Option.bind_some, hnext, ne_eq, Option.some_inj]
  rintro rfl
  rcases heffect.epoch with heq | heq
  · exact hne heq.symm
  · simp only [ApState.atJoin, ApState.epochAfter, ApState.epochAtJoin] at heq
    omega

end led

section only

variable {r : Registry} {m : Metadata} {i b t : Nat}

/-- The statement before the only branch to `t` can be reached without `t`. -/
theorem canAvoid_of_onlyEdge (hanalyze : analyze r = .ok m) (h : m.OnlyEdge r i b t) :
    ∃ f, r.CanAvoid f t i := by
  have hm := analyze_consistent hanalyze
  -- A path that comes to `t` came to `i` before.
  have hpath : ∀ {f j}, r.CanReach f j → r.CanAvoid f t j ∨ r.CanAvoid f t i := by
    intro f j hreach
    induction hreach with
    | entry hfunction hlt =>
      exact .inl (.entry hfunction hlt (h.no_entry _ (List.mem_of_getElem? hfunction)))
    | @branch j _ target _ _ hreach hedge ih =>
      rcases ih with havoid | havoid
      · by_cases htarget : target = t
        · subst htarget
          obtain ⟨site, hsite, -⟩ := owner?_eq_some_iff.mp (owner_of_canReach hm hreach)
          obtain ⟨rfl, -⟩ := h.only (by rw [Metadata.state?, hsite]; rfl) hedge
          exact .inr havoid
        · exact .inl (havoid.branch hedge htarget)
      · exact .inr havoid
  have hreached := h.reached
  rw [Metadata.state?, Option.isSome_map, Option.isSome_iff_exists] at hreached
  obtain ⟨site, hsite⟩ := hreached
  exact ⟨site.owner, (hpath (canReach_of_site hanalyze hsite)).elim id id⟩

/-- What arrives at a statement with an only branch arrives along that. -/
theorem ledTo_of_arrived {s : ApState} (hanalyze : analyze r = .ok m) (h : m.OnlyEdge r i b t)
    (harrived : Arrived r t s) : LedTo r i b s := by
  cases harrived with
  | entry hfunction hentry => exact absurd hentry (h.no_entry _ hfunction)
  | branch hedge hled =>
    obtain ⟨rfl, rfl⟩ := h.only (hled.reached hanalyze) hedge
    exact hled

end only

end Ap

/-- If one branch leads to a statement, the position there is that after the branch exactly if the
branch led to no other position in the course of the analysis.  Otherwise both the statement and the
one before are at joins. -/
theorem state_eq_branchState_iff {r : Registry} {m : Metadata} {i b t : Nat}
    (hanalyze : analyze r = .ok m) (h : m.OnlyEdge r i b t) :
    (m.state? t = m.branchState? i b ↔
      ∀ next, Ap.LedTo r i b next → m.branchState? i b = some next) ∧
    (m.state? t = m.branchState? i b ∨
      m.state? i = some (.atJoin i) ∧ m.state? t = some (.atJoin t)) := by
  have hm := analyze_consistent hanalyze
  obtain ⟨lib, sig, hedge⟩ := h.edge
  obtain ⟨f, havoid⟩ := Ap.canAvoid_of_onlyEdge hanalyze h
  have hiff : m.state? t = m.branchState? i b ↔
      ∀ next, Ap.LedTo r i b next → m.branchState? i b = some next := by
    constructor
    · intro heq next hled
      rcases hled.target hanalyze hedge with hnext | hjoin
      · rw [← heq, hnext]
      · exact absurd (heq.symm.trans hjoin) (Ap.branchState_ne_atJoin hm havoid hedge)
    · intro hled
      obtain ⟨site₀, hsite₀, -⟩ := Ap.epoch_ne_of_canAvoid hm havoid
      obtain ⟨-, site, -, -, hsite, -⟩ := hm.edge hsite₀ hedge
      rw [Metadata.state?, hsite, Option.map_some]
      rcases Ap.fromArrivals_of_site hanalyze hsite with
        harrived | ⟨-, next, next', hnext, hnext', hne⟩
      · exact (hled _ (Ap.ledTo_of_arrived hanalyze h harrived)).symm
      · have heq := hled _ (Ap.ledTo_of_arrived hanalyze h hnext)
        rw [hled _ (Ap.ledTo_of_arrived hanalyze h hnext'), Option.some_inj] at heq
        exact absurd heq.symm hne
  refine ⟨hiff, ?_⟩
  by_cases hjoin : m.state? i = some (.atJoin i)
  · obtain ⟨site₀, hsite₀, -⟩ := Ap.epoch_ne_of_canAvoid hm havoid
    obtain ⟨next, site, hnext, -, hsite, -, hstate⟩ := hm.edge hsite₀ hedge
    rw [Metadata.branchState?, hsite₀, Option.bind_some, hnext, Metadata.state?, hsite,
      Option.map_some, Option.some_inj, Option.some_inj]
    exact hstate.imp_right fun hstate => ⟨hjoin, hstate⟩
  · exact .inl (hiff.mpr fun next hled => hled.branchState hanalyze hedge hjoin)

/-- A loop that is entered without tracking and moves `ap` by one cell on each turn, with tracking
between its statements `1` and `3`. -/
def realignedLoop : Program where
  types := [.numbered 0 "felt252"]
  libfuncs :=
    [.numbered 0 "disable_ap_tracking", .numbered 1 "enable_ap_tracking",
     .numbered 2 "store_temp" [.type { id := 0 }], .numbered 3 "jump"]
  statements :=
    [.numbered 0 [] [(.fallthrough, [])],
     .numbered 1 [] [(.fallthrough, [])],
     .numbered 2 [0] [(.fallthrough, [0])],
     .numbered 0 [] [(.fallthrough, [])],
     .numbered 3 [] [(.statement 1, [])]]
  functions := [.numbered 0 [0] [] 0]

/-- Paths join at statement `1` of `realignedLoop`, but its branch always leads to the start of the
epoch that it opens. -/
theorem state_eq_branchState_realignedLoop :
    ∃ r m, Registry.build realignedLoop = .ok r ∧ analyze r = .ok m ∧ m.OnlyEdge r 1 0 2 ∧
      m.state? 1 = some (.atJoin 1) ∧
      ∀ next, Ap.LedTo r 1 0 next → m.branchState? 1 0 = some next := by
  obtain ⟨r, hbuild, hr⟩ : ∃ r, Registry.build realignedLoop = .ok r ∧
      ((analyze r).toOption.any fun m => decide (m.state? 1 = some (ApState.atJoin 1)) &&
        decide (m.state? 2 = m.branchState? 1 0)) = true :=
    exists_of_toOption_any (by decide +kernel)
  obtain ⟨m, hanalyze, hm⟩ := exists_of_toOption_any hr
  rw [Bool.and_eq_true, decide_eq_true_eq, decide_eq_true_eq] at hm
  obtain ⟨hjoin, hstate⟩ := hm
  have honly : m.OnlyEdge r 1 0 2 :=
    onlyEdge_of_edgesTo hbuild (by decide) (by decide) (by rw [hjoin]; rfl)
  exact ⟨r, m, hbuild, hanalyze, honly, hjoin,
    (state_eq_branchState_iff hanalyze honly).1.mp hstate⟩

/-- A loop without tracking that moves `ap` by one cell on each turn. -/
def untrackedLoop : Program where
  types := [.numbered 0 "felt252"]
  libfuncs :=
    [.numbered 0 "disable_ap_tracking", .numbered 1 "store_temp" [.type { id := 0 }],
     .numbered 2 "jump"]
  statements :=
    [.numbered 0 [] [(.fallthrough, [])],
     .numbered 1 [0] [(.fallthrough, [0])],
     .numbered 2 [] [(.statement 1, [])]]
  functions := [.numbered 0 [0] [] 0]

/-- One branch leads to statement `2` of `untrackedLoop`, and still a fresh epoch opens there: the
branch was followed to offset `1` from the entry before paths joined at statement `1`. -/
theorem state_ne_branchState_untrackedLoop :
    ∃ r m, Registry.build untrackedLoop = .ok r ∧ analyze r = .ok m ∧ m.OnlyEdge r 1 0 2 ∧
      m.branchState? 1 0 = some { epoch := ApState.epochAtJoin 1, offset := 1 } ∧
      m.state? 2 = some { epoch := ApState.epochAtJoin 2 } := by
  obtain ⟨r, hbuild, hr⟩ : ∃ r, Registry.build untrackedLoop = .ok r ∧
      ((analyze r).toOption.any fun m => (m.state? 1).isSome &&
        (decide (m.branchState? 1 0 = some { epoch := ApState.epochAtJoin 1, offset := 1 }) &&
        decide (m.state? 2 = some { epoch := ApState.epochAtJoin 2 }))) = true :=
    exists_of_toOption_any (by decide +kernel)
  obtain ⟨m, hanalyze, hm⟩ := exists_of_toOption_any hr
  simp only [Bool.and_eq_true, decide_eq_true_eq] at hm
  obtain ⟨hreached, hbranch, hstate⟩ := hm
  exact ⟨r, m, hbuild, hanalyze,
    onlyEdge_of_edgesTo hbuild (by decide) (by decide) hreached, hbranch, hstate⟩

end SierraCasm
