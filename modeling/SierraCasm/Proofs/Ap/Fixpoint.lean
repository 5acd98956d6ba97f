import SierraCasm.Proofs.Ap.Invariant
import SierraCasm.Proofs.Registry.Valid

/-! # The analysis reaches a consistent solution

What a successful analysis records fits together (`analyze_consistent`): the position after each
branch of a reached invocation is its effect applied to the position at the statement, the target
of the branch is reached by the same function, at that position or at the position of a join, and
the change of a function is the one that its returns give.

The invariant is carried through one arrival (`arrive_inv`), the branches of a statement
(`followBranches_inv`), a visit, a walk (`walkAll_inv`), and by induction on the depth of calls
through the resolution of a function (`resolve_sound`).  With it goes the ranking of the functions,
so that what is proved of a function may use what holds of those it calls with a known change
(`analyze_ranked`). -/

namespace SierraCasm.Ap

open Sierra Concrete

/-! ### Resolving a callee -/

/-- From `s` to `s'` everything recorded stays, what is new belongs to functions that were not
visited yet, and no function is left in the middle of its walk. -/
structure Preserves (s s' : Progress) : Prop where
  site : ∀ i site, s.site? i = some site → s'.site? i = some site
  fresh : ∀ i site, s.site? i = none → s'.site? i = some site → s.status site.owner = .unvisited
  status : ∀ g, s.status g ≠ .unvisited → s'.status g = s.status g
  quiet : ∀ g, s'.status g = .visiting → s.status g = .visiting

theorem Preserves.refl (s : Progress) : Preserves s s where
  site _ _ h := h
  fresh _ _ h h' := by rw [h] at h'; cases h'
  status _ _ := rfl
  quiet _ h := h

theorem Preserves.extends {s s' : Progress} (h : Preserves s s') (f : Nat) : Extends f s s' where
  site i site hi _ := h.site i site hi
  own i site hi hf := ⟨site, h.site i site hi, hf, .inl rfl⟩
  fresh i site hi hi' := .inr (h.fresh i site hi hi')
  status := h.status
  quiet g _ hg := h.quiet g hg

/-- A resolver keeps the invariant, whatever is open, and preserves what is recorded. -/
def Resolver.Sound (r : Registry) (resolve : Resolver) : Prop :=
  ∀ (Open : Nat → Prop) (g : Nat) (s s' : Progress), resolve g s = .ok s' → Inv r Open s →
    Inv r Open s' ∧ Preserves s s'

/-- A branch has its effect, and at most callees are resolved on the way. -/
theorem advance_sound {r : Registry} {resolve : Resolver} (hresolve : resolve.Sound r)
    {Open : Nat → Prop} {i : Nat} {at' next : ApState} {e : ApEffect} {s s' : Progress}
    (h : advance r.program resolve i at' e s = .ok (next, s')) (hinv : Inv r Open s) :
    Inv r Open s' ∧ Preserves s s' ∧ Effect r.program s'.Done i at' e next := by
  cases e with
  | known cells =>
    cases h
    exact ⟨hinv, .refl s, .known cells⟩
  | call callee =>
    obtain ⟨⟨change, s₁⟩, hchange, h⟩ := bind_eq_ok.mp h
    cases h
    rcases calleeChange_eq_ok hchange with ⟨rfl, rfl⟩ | ⟨g, hg, hresolved, hstatus⟩
    · exact ⟨hinv, .refl _, .freshCall callee⟩
    · obtain ⟨hinv', hpreserves⟩ := hresolve Open g s _ hresolved hinv
      refine ⟨hinv', hpreserves, ?_⟩
      rcases hstatus with rfl | hdone
      · exact .freshCall callee
      · exact .doneCall hg hdone
  | enableTracking =>
    cases h
    exact ⟨hinv, .refl s, .enable⟩
  | disableTracking =>
    cases h
    exact ⟨hinv, .refl s, .disable⟩

/-! ### The invariant of a walk -/

/-- The invariant of a walk through function `f`: its own pending statements are open as well, and
the returns that it reached are noted or pending. -/
structure WalkInv (r : Registry) (Open : Nat → Prop) (f : Nat) (w : Walk) : Prop where
  inv : Inv r (fun i => Open i ∨ i ∈ w.pending) w.progress
  visiting : w.progress.status f = .visiting
  pending : ∀ i ∈ w.pending, ∃ site, w.progress.site? i = some site ∧ site.owner = f
  returns : ∀ i ∈ w.returns, IsReturnOf r w.progress f i
  noted : ∀ i, IsReturnOf r w.progress f i → i ∈ w.pending ∨ i ∈ w.returns

/-- From `w` to `w'` a walk through `f` goes on without taking a statement up: a site of its own
that changes is pending afterwards. -/
structure Grows (f : Nat) (w w' : Walk) : Prop where
  progress : Extends f w.progress w'.progress
  pending : ∀ i ∈ w.pending, i ∈ w'.pending
  own : ∀ i site, w.progress.site? i = some site → site.owner = f →
    w'.progress.site? i = some site ∨ i ∈ w'.pending

theorem Grows.refl (f : Nat) (w : Walk) : Grows f w w where
  progress := .refl f _
  pending _ h := h
  own _ _ h _ := .inl h

theorem Grows.trans {f : Nat} {w w' w'' : Walk} (h : Grows f w w') (h' : Grows f w' w'') :
    Grows f w w'' where
  progress := h.progress.trans h'.progress
  pending i hi := h'.pending i (h.pending i hi)
  own i site hi hf := by
    rcases h.own i site hi hf with hi' | hpending
    · exact h'.own i site hi' hf
    · exact .inr (h'.pending i hpending)

section walk

variable {r : Registry} {resolve : Resolver} {Open : Nat → Prop} {f i t : Nat} {s : ApState}
  {w w' : Walk}

theorem WalkInv.preserves (h : WalkInv r Open f w) {s' : Progress}
    (hinv : Inv r (fun i => Open i ∨ i ∈ w.pending) s') (hpreserves : Preserves w.progress s') :
    WalkInv r Open f { w with progress := s' } where
  inv := hinv
  visiting := by
    rw [hpreserves.status f (by rw [h.visiting]; simp)]
    exact h.visiting
  pending i hi := by
    obtain ⟨site, hsite, howner⟩ := h.pending i hi
    exact ⟨site, hpreserves.site i site hsite, howner⟩
  returns i hi := by
    obtain ⟨hret, site, hsite, howner⟩ := h.returns i hi
    exact ⟨hret, site, hpreserves.site i site hsite, howner⟩
  noted i hi := by
    obtain ⟨hret, site, hsite, howner⟩ := hi
    refine h.noted i ⟨hret, site, ?_, howner⟩
    cases hold : w.progress.site? i with
    | none =>
      have hunvisited := hpreserves.fresh i site hold hsite
      rw [howner, h.visiting] at hunvisited
      cases hunvisited
    | some site₀ =>
      rw [hpreserves.site i site₀ hold] at hsite
      exact hsite

theorem not_done_of_visiting {s : Progress} (hvisiting : s.status f = .visiting) (c : ApChange) :
    ¬ s.Done f c := by
  intro hdone
  rw [Progress.Done, hvisiting] at hdone
  cases hdone

/-- A walk through `f` keeps the invariant if the sites that it changes, all of them its own, are
open or settled afterwards. -/
theorem Inv.change {Open' : Nat → Prop} {s s' : Progress} (h : Inv r Open s)
    (hvisiting : s.status f = .visiting) (hext : Extends f s s')
    (hlength : s'.sites.length = s.sites.length) (hfunctions : s'.functions = s.functions)
    (hsites : ∀ i site, s'.site? i = some site →
      (s.site? i = some site ∧ (Open i → Open' i)) ∨
      (site.owner = f ∧ (Open' i ∨ Settled r s' i site))) :
    Inv r Open' s' := by
  have hstatus : ∀ g, s'.status g = s.status g := by
    intro g
    simp only [Progress.status, hfunctions]
  refine ⟨hlength.trans h.length_sites,
    (congrArg List.length hfunctions).trans h.length_functions, ?_, ?_, ?_, ?_⟩
  · intro i site hi
    rcases hsites i site hi with ⟨hold, hopen⟩ | ⟨-, hnew⟩
    · exact (h.settled i site hold).imp hopen (Settled.mono hext)
    · exact hnew
  · intro i site hi
    rw [hstatus]
    rcases hsites i site hi with ⟨hold, -⟩ | ⟨hf, -⟩
    · exact h.started i site hold
    · rw [hf, hvisiting]
      simp
  · intro g change hg
    rw [hstatus] at hg
    have hgf : g ≠ f := by
      rintro rfl
      rw [hvisiting] at hg
      cases hg
    obtain ⟨hentry, hreturns⟩ := h.resolved g change hg
    exact ⟨hentry.mono hext hgf, hreturns.mono hext (by rw [hg]; simp) hgf⟩
  · obtain ⟨rank, bound, hranked⟩ := h.ranked
    exact ⟨rank, bound, hranked.mono hext (not_done_of_visiting hvisiting) fun g c hg =>
      (hstatus g).symm.trans hg⟩

/-! ### One arrival -/

/-- Recording a position of function `f` at a statement that is new or its own extends what is
known. -/
theorem extends_setSite {progress : Progress} (hlt : t < progress.sites.length) {site : Site}
    (howner : site.owner = f)
    (hold : ∀ site₀, progress.site? t = some site₀ →
      site₀.owner = f ∧ (site.state = site₀.state ∨ site.state = .atJoin t)) :
    Extends f progress (progress.setSite t site) where
  site i site₀ hi hf := by
    have hit : i ≠ t := by
      rintro rfl
      exact hf (hold site₀ hi).1
    rw [Progress.site?_setSite_of_ne hit]
    exact hi
  own i site₀ hi hf := by
    by_cases hit : i = t
    · subst hit
      exact ⟨site, Progress.site?_setSite_self hlt site, howner, (hold site₀ hi).2⟩
    · exact ⟨site₀, by rw [Progress.site?_setSite_of_ne hit]; exact hi, hf, .inl rfl⟩
  fresh i site' hi hi' := by
    by_cases hit : i = t
    · subst hit
      rw [Progress.site?_setSite_self hlt] at hi'
      cases hi'
      exact .inl howner
    · rw [Progress.site?_setSite_of_ne hit, hi] at hi'
      cases hi'
  status _ _ := rfl
  quiet _ _ h := h

theorem WalkInv.record (h : WalkInv r Open f w) (hlt : t < r.program.statements.length)
    (site : Site) (howner : site.owner = f)
    (hold : ∀ site₀, w.progress.site? t = some site₀ →
      site₀.owner = f ∧ (site.state = site₀.state ∨ site.state = .atJoin t)) :
    WalkInv r Open f { w with
        pending := Ascending.insert t w.pending, progress := w.progress.setSite t site } ∧
      Grows f w { w with
        pending := Ascending.insert t w.pending, progress := w.progress.setSite t site } := by
  have hlt' : t < w.progress.sites.length := by rw [h.inv.length_sites]; exact hlt
  have hext := extends_setSite hlt' howner hold
  have hself := Progress.site?_setSite_self hlt' site
  have hother : ∀ i, i ≠ t → (w.progress.setSite t site).site? i = w.progress.site? i :=
    fun i hi => Progress.site?_setSite_of_ne hi site
  have hmem : ∀ i, i ∈ Ascending.insert t w.pending ↔ i = t ∨ i ∈ w.pending :=
    fun i => Ascending.mem_insert t i w.pending
  refine ⟨⟨?_, h.visiting, ?_, ?_, ?_⟩, ⟨hext, fun i hi => (hmem i).mpr (.inr hi), ?_⟩⟩
  · refine h.inv.change h.visiting hext Progress.length_sites_setSite rfl fun i site' hi => ?_
    by_cases hit : i = t
    · subst hit
      rw [hself] at hi
      cases hi
      exact .inr ⟨howner, .inl (.inr ((hmem i).mpr (.inl rfl)))⟩
    · rw [hother i hit] at hi
      exact .inl ⟨hi, Or.imp_right fun hpending => (hmem i).mpr (.inr hpending)⟩
  · intro i hi
    by_cases hit : i = t
    · exact ⟨site, by rw [hit]; exact hself, howner⟩
    · obtain ⟨site', hsite', howner'⟩ := h.pending i (((hmem i).mp hi).resolve_left hit)
      exact ⟨site', by rw [hother i hit]; exact hsite', howner'⟩
  · intro i hi
    obtain ⟨hret, site₀, hsite₀, howner₀⟩ := h.returns i hi
    obtain ⟨site', hsite', howner', -⟩ := hext.own i site₀ hsite₀ howner₀
    exact ⟨hret, site', hsite', howner'⟩
  · rintro i ⟨hret, site', hsite', howner'⟩
    by_cases hit : i = t
    · exact .inl ((hmem i).mpr (.inl hit))
    · rw [hother i hit] at hsite'
      exact (h.noted i ⟨hret, site', hsite', howner'⟩).imp_left fun hi => (hmem i).mpr (.inr hi)
  · intro i site' hi _
    by_cases hit : i = t
    · exact .inr ((hmem i).mpr (.inl hit))
    · exact .inl (by rw [hother i hit]; exact hi)

/-- An arrival keeps the invariant and leaves the target at the position that arrives or at that
of a join. -/
theorem arrive_inv (hw : WalkInv r Open f w) (hlt : t < r.program.statements.length)
    (h : Walk.arrive r.program f t s w = .ok w') :
    WalkInv r Open f w' ∧ Grows f w w' ∧
      ∃ site, w'.progress.site? t = some site ∧ site.owner = f ∧
        (site.state = s ∨ site.state = .atJoin t) := by
  have hlt' : t < w.progress.sites.length := by rw [hw.inv.length_sites]; exact hlt
  obtain ⟨changed, progress', hmerge, rfl⟩ := arrive_eq_ok h
  rcases merge_cases hmerge with ⟨hnone, rfl, rfl⟩ | ⟨site, hsite, howner, hstate, rfl, rfl⟩ |
    ⟨site, hsite, howner, rfl, rfl⟩
  · obtain ⟨hw', hgrows⟩ := hw.record hlt { state := s, owner := f } rfl
      (fun site₀ h₀ => by rw [hnone] at h₀; cases h₀)
    exact ⟨hw', hgrows, _, Progress.site?_setSite_self hlt' _, rfl, .inl rfl⟩
  · exact ⟨hw, .refl f _, site, hsite, howner, hstate⟩
  · obtain ⟨hw', hgrows⟩ := hw.record hlt { site with state := .atJoin t } howner
      (fun site₀ h₀ => by rw [hsite] at h₀; cases h₀; exact ⟨howner, .inr rfl⟩)
    exact ⟨hw', hgrows, _, Progress.site?_setSite_self hlt' _, howner, .inr rfl⟩

/-! ### One visit -/

/-- Following one branch of a statement keeps the invariant, and the branch leads where it
should. -/
theorem followBranch_inv (hresolve : resolve.Sound r) {branch : Branch} {sig : BranchSignature}
    {next : ApState} {progress : Progress} (hw : WalkInv r Open f w)
    (hadvance : advance r.program resolve i s sig.ap w.progress = .ok (next, progress))
    (hlt : (branch.target.resolve i).toNat < r.program.statements.length)
    (harrive : Walk.arrive r.program f (branch.target.resolve i).toNat next
      { w with progress := progress } = .ok w') :
    WalkInv r Open f w' ∧ Grows f w w' ∧ w'.returns = w.returns ∧
      Leads r.program w'.progress f i s (branch, sig) next := by
  obtain ⟨hinv, hpreserves, heffect⟩ := advance_sound hresolve hadvance hw.inv
  have hw₀ := hw.preserves hinv hpreserves
  have hgrows₀ : Grows f w { w with progress := progress } :=
    ⟨hpreserves.extends f, fun _ hi => hi, fun j site hj _ => .inl (hpreserves.site j site hj)⟩
  obtain ⟨hw', hgrows, site, hsite, howner, hstate⟩ := arrive_inv hw₀ hlt harrive
  have hreturns : w'.returns = w.returns := by
    obtain ⟨_, _, -, rfl⟩ := arrive_eq_ok harrive
    rfl
  exact ⟨hw', hgrows₀.trans hgrows, hreturns,
    heffect.mono fun g c => hgrows.progress.done, site, hsite, howner, hstate⟩

/-- Following the branches of a statement keeps the invariant, and every branch leads where it
should in what is known at the end. -/
theorem followBranches_inv (hresolve : resolve.Sound r) {bs : List (Branch × BranchSignature)}
    {after : List ApState} (hw : WalkInv r Open f w)
    (h : followBranches r.program resolve f i s bs w = .ok (after, w')) :
    WalkInv r Open f w' ∧ Grows f w w' ∧ w'.returns = w.returns ∧
      List.Forall₂ (Leads r.program w'.progress f i s) bs after := by
  induction bs generalizing w after with
  | nil =>
    cases h
    exact ⟨hw, .refl f _, rfl, .nil⟩
  | cons b rest ih =>
    obtain ⟨branch, sig⟩ := b
    obtain ⟨next, progress, w₁, after', hadvance, hlt, harrive, hrest, rfl⟩ :=
      followBranches_cons_eq_ok h
    obtain ⟨hw₁, hgrows₁, hreturns₁, hfirst⟩ := followBranch_inv hresolve hw hadvance hlt harrive
    obtain ⟨hw', hgrows', hreturns', hleads⟩ := ih hw₁ hrest
    -- The first branch was followed before the others: what it reached may have joined since.
    exact ⟨hw', hgrows₁.trans hgrows', hreturns'.trans hreturns₁,
      .cons (hfirst.mono hgrows'.progress) hleads⟩

/-- Once the branches of an invocation were followed, the invocation is settled, or it has changed
on the way and is pending again. -/
theorem WalkInv.settle (h : WalkInv r (fun j => Open j ∨ j = i) f w) {site : Site}
    (hsite : w.progress.site? i = some site) (howner : site.owner = f) {inv : Invocation}
    {lib : ConcreteLibfunc} (hstatement : r.program.statements[i]? = some (.invoke inv))
    (hlib : r.libfunc? inv.libfunc = some lib) (after : List ApState)
    (hleads : i ∈ w.pending ∨ List.Forall₂ (Leads r.program w.progress f i site.state)
      (inv.branches.zip lib.signature.branches) after) :
    WalkInv r Open f { w with progress := w.progress.setAfter i after } ∧
      Extends f w.progress (w.progress.setAfter i after) := by
  rw [Progress.setAfter_eq hsite]
  have hlt := Progress.lt_of_site? hsite
  have hext : Extends f w.progress (w.progress.setSite i { site with after := after }) :=
    extends_setSite hlt howner fun site₀ h₀ => by
      rw [hsite] at h₀
      cases h₀
      exact ⟨howner, .inl rfl⟩
  have hself := Progress.site?_setSite_self hlt { site with after := after }
  have hother : ∀ j, j ≠ i →
      (w.progress.setSite i { site with after := after }).site? j = w.progress.site? j :=
    fun j hj => Progress.site?_setSite_of_ne hj _
  refine ⟨⟨?_, h.visiting, ?_, ?_, ?_⟩, hext⟩
  · refine h.inv.change h.visiting hext Progress.length_sites_setSite rfl fun j site' hj => ?_
    by_cases hji : j = i
    · subst hji
      rw [hself] at hj
      cases hj
      refine .inr ⟨howner, ?_⟩
      rcases hleads with hpending | hleads
      · exact .inl (.inr hpending)
      · refine .inr (.inr ⟨inv, lib, hstatement, hlib, ?_⟩)
        subst howner
        exact hleads.imp fun _ _ => Leads.mono hext
    · rw [hother j hji] at hj
      exact .inl ⟨hj, Or.imp_left fun hopen => hopen.resolve_right hji⟩
  · intro j hj
    obtain ⟨site', hsite', howner'⟩ := h.pending j hj
    obtain ⟨site'', hsite'', howner'', -⟩ := hext.own j site' hsite' howner'
    exact ⟨site'', hsite'', howner''⟩
  · intro j hj
    obtain ⟨hret, site₀, hsite₀, howner₀⟩ := h.returns j hj
    obtain ⟨site', hsite', howner', -⟩ := hext.own j site₀ hsite₀ howner₀
    exact ⟨hret, site', hsite', howner'⟩
  · rintro j ⟨⟨vars, hret⟩, site', hsite', howner'⟩
    have hji : j ≠ i := by
      rintro rfl
      rw [hstatement] at hret
      cases hret
    rw [hother j hji] at hsite'
    exact h.noted j ⟨⟨vars, hret⟩, site', hsite', howner'⟩

/-- While the branches of an invocation are followed, the statement itself counts as open. -/
theorem WalkInv.takeUp {rest : List Nat} (h : WalkInv r Open f w) (hpending : w.pending = i :: rest)
    {inv : Invocation} (hinvoke : r.program.statements[i]? = some (.invoke inv)) :
    WalkInv r (fun j => Open j ∨ j = i) f { w with pending := rest } := by
  have hrest : ∀ j ∈ w.pending, j = i ∨ j ∈ rest := by
    intro j hj
    rw [hpending] at hj
    exact List.mem_cons.mp hj
  refine ⟨?_, h.visiting, ?_, h.returns, ?_⟩
  · refine h.inv.change h.visiting (.refl f _) rfl rfl fun j site' hj => .inl ⟨hj, ?_⟩
    rintro (hopen | hmem)
    · exact .inl (.inl hopen)
    · exact (hrest j hmem).imp_left .inr
  · exact fun j hj => h.pending j (by rw [hpending]; exact List.mem_cons_of_mem i hj)
  · intro j hj
    refine (h.noted j hj).imp_left fun hmem => (hrest j hmem).resolve_left ?_
    rintro rfl
    obtain ⟨vars, hret⟩ := hj.1
    rw [hinvoke] at hret
    cases hret

theorem visit_inv (hresolve : resolve.Sound r) {rest : List Nat} (hw : WalkInv r Open f w)
    (hpending : w.pending = i :: rest)
    (h : visit r resolve f i { w with pending := rest } = .ok w') :
    WalkInv r Open f w' ∧ Extends f w.progress w'.progress := by
  obtain ⟨site₀, hsite₀, howner₀⟩ := hw.pending i (by rw [hpending]; exact List.mem_cons_self)
  have hrest : ∀ j ∈ w.pending, j = i ∨ j ∈ rest := by
    intro j hj
    rw [hpending] at hj
    exact List.mem_cons.mp hj
  obtain ⟨site, hsite, ⟨vars, hret, rfl⟩ | ⟨inv, lib, after, w₁, hinvoke, hlib, hfollow, rfl⟩⟩ :=
    visit_eq_ok h
  · refine ⟨⟨?_, hw.visiting, ?_, ?_, ?_⟩, .refl f _⟩
    · refine hw.inv.change hw.visiting (.refl f _) rfl rfl fun j site' hj => ?_
      by_cases hji : j = i
      · subst hji
        rw [hsite₀] at hj
        cases hj
        exact .inr ⟨howner₀, .inr (.inl ⟨vars, hret⟩)⟩
      · exact .inl ⟨hj, Or.imp_right fun hmem => (hrest j hmem).resolve_left hji⟩
    · exact fun j hj => hw.pending j (by rw [hpending]; exact List.mem_cons_of_mem i hj)
    · intro j hj
      rcases List.mem_append.mp hj with hj | hj
      · exact hw.returns j hj
      · rw [List.mem_singleton.mp hj]
        exact ⟨⟨vars, hret⟩, site₀, hsite₀, howner₀⟩
    · intro j hj
      rcases hw.noted j hj with hmem | hmem
      · rcases hrest j hmem with rfl | hmem
        · exact .inr (List.mem_append_right _ List.mem_cons_self)
        · exact .inl hmem
      · exact .inr (List.mem_append_left _ hmem)
  · obtain ⟨hw₁, hgrows, -, hleads⟩ :=
      followBranches_inv hresolve (hw.takeUp hpending hinvoke) hfollow
    obtain rfl : site₀ = site := Option.some.inj (hsite₀.symm.trans hsite)
    obtain ⟨site₁, hsite₁, howner₁, -⟩ := hgrows.progress.own i site₀ hsite howner₀
    obtain ⟨hw', hext⟩ := hw₁.settle hsite₁ howner₁ hinvoke hlib after <| by
      rcases hgrows.own i site₀ hsite howner₀ with hsame | hmem
      · rw [hsite₁] at hsame
        cases hsame
        exact .inr hleads
      · exact .inl hmem
    exact ⟨hw', hgrows.progress.trans hext⟩

/-! ### The walk -/

theorem walkAll_inv (hresolve : resolve.Sound r) {fuel : Nat} (hw : WalkInv r Open f w)
    (h : walkAll r resolve f fuel w = .ok w') :
    WalkInv r Open f w' ∧ w'.pending = [] ∧ Extends f w.progress w'.progress := by
  obtain ⟨⟨hw', hext⟩, hnil⟩ := walkAll_induct
    (P := fun w₁ => WalkInv r Open f w₁ ∧ Extends f w.progress w₁.progress) h ⟨hw, .refl f _⟩ <| by
      rintro w₁ w₂ i rest ⟨hw₁, hext₁⟩ hpending hvisit
      obtain ⟨hw₂, hext₂⟩ := visit_inv hresolve hw₁ hpending hvisit
      exact ⟨hw₂, hext₁.trans hext₂⟩
  exact ⟨hw', hnil, hext⟩

end walk

/-! ### Functions -/

section functions

variable {r : Registry} {Open : Nat → Prop} {f : Nat} {s : Progress}

theorem extends_setStatus_visiting (hunvisited : s.status f = .unvisited) :
    Extends f s (s.setStatus f .visiting) where
  site _ _ h _ := h
  own _ site h hf := ⟨site, h, hf, .inl rfl⟩
  fresh _ _ h h' := by
    rw [Progress.site?_setStatus, h] at h'
    cases h'
  status g hg := by
    refine Progress.status_setStatus_of_ne ?_ _
    rintro rfl
    exact hg hunvisited
  quiet g hgf hg := by
    rw [Progress.status_setStatus_of_ne hgf] at hg
    exact hg

theorem Inv.owner_ne (h : Inv r Open s) (hunvisited : s.status f = .unvisited) (i : Nat)
    (site : Site) (hi : s.site? i = some site) : site.owner ≠ f := by
  rintro rfl
  exact h.started i site hi hunvisited

theorem Inv.lt_functions {function : Function} (h : Inv r Open s)
    (hfunction : r.program.functions[f]? = some function) : f < s.functions.length := by
  rw [h.length_functions]
  exact (List.getElem?_eq_some_iff.mp hfunction).1

theorem Inv.begin (h : Inv r Open s) (hunvisited : s.status f = .unvisited)
    (hlt : f < s.functions.length) : Inv r Open (s.setStatus f .visiting) := by
  have hext := extends_setStatus_visiting hunvisited
  have hself : (s.setStatus f .visiting).status f = .visiting :=
    Progress.status_setStatus_self hlt _
  refine ⟨h.length_sites, Progress.length_functions_setStatus.trans h.length_functions,
    ?_, ?_, ?_, ?_⟩
  · intro i site hi
    exact (h.settled i site hi).imp_right (Settled.mono hext)
  · intro i site hi
    have hstarted := h.started i site hi
    rw [hext.status _ hstarted]
    exact hstarted
  · intro g change hg
    have hgf : g ≠ f := by
      rintro rfl
      rw [hself] at hg
      cases hg
    rw [Progress.status_setStatus_of_ne hgf] at hg
    obtain ⟨hentry, hreturns⟩ := h.resolved g change hg
    exact ⟨hentry, hreturns⟩
  · obtain ⟨rank, bound, hranked⟩ := h.ranked
    refine ⟨rank, bound, hranked.mono hext (fun c hc => ?_) fun g c hg => ?_⟩
    · rw [Progress.Done, hunvisited] at hc
      cases hc
    · have hgf : g ≠ f := by
        rintro rfl
        rw [Progress.Done, hself] at hg
        cases hg
      rwa [Progress.Done, Progress.status_setStatus_of_ne hgf] at hg

theorem Inv.finish {change : ApChange} (h : Inv r Open s) (hvisiting : s.status f = .visiting)
    (hsettled : ∀ i site, s.site? i = some site → site.owner = f → Settled r s i site)
    (hentry : EntryReached r s f) (hreturns : ReturnsGive r s f change) :
    Inv r Open (s.setStatus f (.done change)) := by
  have hlt : f < s.functions.length := Progress.lt_of_status_ne (by rw [hvisiting]; simp)
  have hself : (s.setStatus f (.done change)).status f = .done change :=
    Progress.status_setStatus_self hlt _
  have hother : ∀ g, g ≠ f → (s.setStatus f (.done change)).status g = s.status g :=
    fun g hg => Progress.status_setStatus_of_ne hg _
  have hdone : ∀ g c, s.Done g c → (s.setStatus f (.done change)).Done g c := by
    intro g c hg
    have hgf : g ≠ f := by
      rintro rfl
      exact not_done_of_visiting hvisiting c hg
    rw [Progress.Done, hother g hgf]
    exact hg
  refine ⟨h.length_sites, Progress.length_functions_setStatus.trans h.length_functions,
    ?_, ?_, ?_, ?_⟩
  · intro i site hi
    refine (h.settled i site hi).imp_right (Or.imp_right ?_)
    rintro ⟨inv, lib, hstatement, hlib, hleads⟩
    exact ⟨inv, lib, hstatement, hlib, hleads.imp fun _ _ hb => ⟨hb.1.mono hdone, hb.2⟩⟩
  · intro i site hi
    by_cases hf : site.owner = f
    · rw [hf, hself]
      simp
    · rw [hother _ hf]
      exact h.started i site hi
  · intro g c hg
    by_cases hgf : g = f
    · subst hgf
      rw [hself] at hg
      cases hg
      exact ⟨hentry, hreturns⟩
    · rw [hother g hgf] at hg
      exact h.resolved g c hg
  · obtain ⟨rank, bound, hranked⟩ := h.ranked
    exact ⟨_, _, hranked.finish hlt (not_done_of_visiting hvisiting) hsettled⟩

/-- Only statements that were reached need to be open. -/
theorem Inv.reached (h : Inv r Open s) : Inv r (fun i => Open i ∧ (s.site? i).isSome) s :=
  { h with
    settled := fun i site hi => (h.settled i site hi).imp_left fun hopen =>
      ⟨hopen, Option.isSome_iff_exists.mpr ⟨site, hi⟩⟩ }

theorem Inv.mono {Open' : Nat → Prop} (h : Inv r Open s) (hopen : ∀ i, Open i → Open' i) :
    Inv r Open' s :=
  { h with settled := fun i site hi => (h.settled i site hi).imp_left (hopen i) }

/-- A walk through a new function begins at its entry, which is reached for the first time. -/
theorem WalkInv.enter {entry : Nat} {changed : Bool} {s₁ : Progress} (hinv : Inv r Open s)
    (hvisiting : s.status f = .visiting) (hnew : ∀ i site, s.site? i = some site → site.owner ≠ f)
    (hlt : entry < r.program.statements.length)
    (hmerge : merge r.program f entry .entry s = .ok (changed, s₁)) :
    s₁ = s.setSite entry { state := .entry, owner := f } ∧
      WalkInv r Open f { pending := [entry], progress := s₁ } ∧ Extends f s s₁ := by
  obtain ⟨hnone, -, rfl⟩ : s.site? entry = none ∧ changed = true ∧
      s₁ = s.setSite entry { state := .entry, owner := f } := by
    rcases merge_cases hmerge with hfirst | ⟨site, hsite, howner, -⟩ | ⟨site, hsite, howner, -⟩
    · exact hfirst
    · exact absurd howner (hnew _ site hsite)
    · exact absurd howner (hnew _ site hsite)
  have hstart : WalkInv r Open f { pending := [], progress := s } := by
    refine ⟨?_, hvisiting, by simp, by simp, ?_⟩
    · refine hinv.change hvisiting (.refl f s) rfl rfl fun i site hi => .inl ⟨hi, .inl⟩
    · rintro i ⟨-, site, hsite, howner⟩
      exact absurd howner (hnew i site hsite)
  obtain ⟨hw, hgrows⟩ := hstart.record hlt { state := .entry, owner := f } rfl fun site₀ h₀ => by
    rw [hnone] at h₀
    cases h₀
  exact ⟨rfl, hw, hgrows.progress⟩

/-- A walk through a new function keeps the invariant, reaches its entry, and gives the change of
its returns. -/
theorem walk_inv {resolve : Resolver} (hresolve : resolve.Sound r) {function : Function}
    {change : ApChange} {s' : Progress} (hfunction : r.program.functions[f]? = some function)
    (hinv : Inv r Open s) (hvisiting : s.status f = .visiting)
    (hnew : ∀ i site, s.site? i = some site → site.owner ≠ f)
    (h : walk r resolve f function.entry.toNat s = .ok (change, s')) :
    Inv r Open s' ∧ Extends f s s' ∧ EntryReached r s' f ∧ ReturnsGive r s' f change := by
  rcases walk_eq_ok h with ⟨hlt, changed, s₁, w, hmerge, hwalk, rfl, rfl⟩ | ⟨hge, rfl, rfl⟩
  · have hlt' : function.entry.toNat < s.sites.length := by rw [hinv.length_sites]; exact hlt
    -- No statement belongs to a new function, so its entry is reached for the first time.
    obtain ⟨rfl, hw₁, hext₁⟩ := WalkInv.enter hinv hvisiting hnew hlt hmerge
    obtain ⟨hw, hnil, hext⟩ := walkAll_inv hresolve hw₁ hwalk
    refine ⟨?_, hext₁.trans hext, ?_, ?_⟩
    · refine hw.inv.change hw.visiting (.refl f _) rfl rfl fun i site hi => .inl ⟨hi, ?_⟩
      rintro (hopen | hmem)
      · exact hopen
      · rw [hnil] at hmem
        cases hmem
    · intro function' hfunction' _
      obtain rfl : function = function' := Option.some.inj (hfunction.symm.trans hfunction')
      obtain ⟨site, hsite, howner, hstate⟩ :=
        hext.own _ _ (Progress.site?_setSite_self hlt' { state := .entry, owner := f }) rfl
      exact ⟨site, hsite, howner, hstate⟩
    · refine ⟨w.returns, fun i => ⟨hw.returns i, fun hi => ?_⟩, rfl⟩
      refine (hw.noted i hi).resolve_left ?_
      rw [hnil]
      exact List.not_mem_nil
  · refine ⟨hinv, .refl f _, ?_, [], fun i => ⟨by simp, ?_⟩, rfl⟩
    · intro function' hfunction' hlt
      obtain rfl : function = function' := Option.some.inj (hfunction.symm.trans hfunction')
      exact absurd hlt hge
    · rintro ⟨-, site, hsite, howner⟩
      exact absurd howner (hnew i site hsite)

/-- A new function is walked through and left with its change. -/
theorem resolve_new {resolve : Resolver} (hresolve : resolve.Sound r) {function : Function}
    {change : ApChange} {s₁ : Progress} (hinv : Inv r Open s)
    (hunvisited : s.status f = .unvisited)
    (hfunction : r.program.functions[f]? = some function)
    (h : walk r resolve f function.entry.toNat (s.setStatus f .visiting) = .ok (change, s₁)) :
    Inv r Open (s₁.setStatus f (.done change)) ∧ Preserves s (s₁.setStatus f (.done change)) ∧
      (s₁.setStatus f (.done change)).status f = .done change := by
  have hlt := hinv.lt_functions hfunction
  have hvisiting : (s.setStatus f .visiting).status f = .visiting :=
    Progress.status_setStatus_self hlt _
  have hnew := hinv.owner_ne hunvisited
  obtain ⟨hinv₁, hext, hentry, hreturns⟩ :=
    walk_inv hresolve hfunction (hinv.begin hunvisited hlt).reached hvisiting hnew h
  -- What was open before the walk belongs to other functions.
  have hsettled : ∀ i site, s₁.site? i = some site → site.owner = f → Settled r s₁ i site := by
    intro i site hi howner
    refine (hinv₁.settled i site hi).resolve_left ?_
    rintro ⟨-, hreached⟩
    obtain ⟨site₀, hi₀⟩ := Option.isSome_iff_exists.mp hreached
    rw [hext.site i site₀ hi₀ (hnew i site₀ hi₀)] at hi
    cases hi
    exact hnew i site hi₀ howner
  have hvisiting₁ : s₁.status f = .visiting := by
    rw [hext.status f (by rw [hvisiting]; simp)]
    exact hvisiting
  have hall := (extends_setStatus_visiting hunvisited).trans hext
  have hself : (s₁.setStatus f (.done change)).status f = .done change :=
    Progress.status_setStatus_self (Progress.lt_of_status_ne (by rw [hvisiting₁]; simp)) _
  refine ⟨(hinv₁.finish hvisiting₁ hsettled hentry hreturns).mono fun _ hopen => hopen.1,
    ⟨?_, ?_, ?_, ?_⟩, hself⟩
  · exact fun i site hi => hall.site i site hi (hnew i site hi)
  · intro i site hi hi'
    rcases hall.fresh i site hi hi' with hf | hunvisited'
    · rw [hf]
      exact hunvisited
    · exact hunvisited'
  · intro g hg
    have hgf : g ≠ f := by
      rintro rfl
      exact hg hunvisited
    rw [Progress.status_setStatus_of_ne hgf]
    exact hall.status g hg
  · intro g hg
    by_cases hgf : g = f
    · rw [hgf, hself] at hg
      cases hg
    · rw [Progress.status_setStatus_of_ne hgf] at hg
      exact hall.quiet g hgf hg

/-- Functions are resolved soundly, however deep calls nest. -/
theorem resolve_sound (r : Registry) (depth : Nat) : (resolve r depth).Sound r := by
  induction depth with
  | zero =>
    intro Open f s s' h
    cases h
  | succ depth ih =>
    intro Open f s s' h hinv
    rcases resolve_eq_ok h with
      ⟨function, change, s₁, hunvisited, hfunction, hwalk, rfl⟩ | ⟨-, rfl⟩
    · obtain ⟨hinv', hpreserves, -⟩ := resolve_new ih hinv hunvisited hfunction hwalk
      exact ⟨hinv', hpreserves⟩
    · exact ⟨hinv, .refl _⟩

/-- A function that is resolved while no walk is going on has its change afterwards. -/
theorem resolve_done {depth : Nat} {s' : Progress} (hlt : f < r.program.functions.length)
    (hinv : Inv r Open s) (hidle : s.status f ≠ .visiting) (h : resolve r depth f s = .ok s') :
    ∃ change, s'.status f = .done change := by
  cases hstatus : s.status f with
  | visiting => exact absurd hstatus hidle
  | done change =>
    obtain ⟨-, hpreserves⟩ := resolve_sound r depth Open f s s' h hinv
    exact ⟨change, by rw [hpreserves.status f (by rw [hstatus]; simp), hstatus]⟩
  | unvisited =>
    cases depth with
    | zero => cases h
    | succ depth =>
      rcases resolve_eq_ok h with ⟨function, change, s₁, -, hfunction, hwalk, rfl⟩ | ⟨hnone, -⟩
      · obtain ⟨-, -, hdone⟩ := resolve_new (resolve_sound r depth) hinv hstatus hfunction hwalk
        exact ⟨change, hdone⟩
      · have hge := List.getElem?_eq_none_iff.mp (hnone hstatus)
        omega

/-- Resolving functions one after the other leaves all of them with their changes. -/
theorem resolveAll_inv {fs : List Nat} {s' : Progress} (hinv : Inv r Open s)
    (hidle : ∀ g, s.status g ≠ .visiting) (hlt : ∀ g ∈ fs, g < r.program.functions.length)
    (h : resolveAll r fs s = .ok s') :
    Inv r Open s' ∧ (∀ g, s.status g ≠ .unvisited → s'.status g = s.status g) ∧
      ∀ g ∈ fs, ∃ change, s'.status g = .done change := by
  induction fs generalizing s with
  | nil =>
    cases h
    exact ⟨hinv, fun _ _ => rfl, by simp⟩
  | cons f fs ih =>
    obtain ⟨s₁, hresolve, h⟩ := bind_eq_ok.mp h
    obtain ⟨hinv₁, hpreserves⟩ := resolve_sound r _ Open f s s₁ hresolve hinv
    obtain ⟨change, hdone⟩ := resolve_done (hlt f List.mem_cons_self) hinv (hidle f) hresolve
    obtain ⟨hinv', hstatus, hall⟩ := ih hinv₁ (fun g hg => hidle g (hpreserves.quiet g hg))
      (fun g hg => hlt g (List.mem_cons_of_mem f hg)) h
    refine ⟨hinv', fun g hg => ?_, fun g hg => ?_⟩
    · rw [hstatus g (by rw [hpreserves.status g hg]; exact hg), hpreserves.status g hg]
    · rcases List.mem_cons.mp hg with rfl | hg
      · exact ⟨change, by rw [hstatus g (by rw [hdone]; simp), hdone]⟩
      · exact hall g hg

theorem status_start_ne_visiting (p : Program) (g : Nat) :
    (Progress.start p).status g ≠ .visiting := by
  rw [Progress.status_start]
  simp

theorem inv_start (r : Registry) (Open : Nat → Prop) : Inv r Open (.start r.program) := by
  have hdone : ∀ f c, ¬ (Progress.start r.program).Done f c := by
    intro f c hf
    rw [Progress.Done, Progress.status_start] at hf
    cases hf
  refine ⟨List.length_map _, List.length_map _, ?_, ?_, ?_, fun _ => 0, 0, ?_⟩
  · intro i site hi
    rw [Progress.site?_start] at hi
    cases hi
  · intro i site hi
    rw [Progress.site?_start] at hi
    cases hi
  · exact fun f change hf => absurd hf (hdone f change)
  · exact ⟨fun g c hg => absurd hg (hdone g c), fun i site c _ hc => absurd hc (hdone _ c)⟩

end functions

end SierraCasm.Ap

/-! ### What the analysis records -/

namespace SierraCasm

open Sierra Concrete Ap

/-- What is recorded about a program fits together. -/
structure Metadata.Consistent (r : Registry) (m : Metadata) : Prop where
  length_changes : m.changes.length = r.program.functions.length
  entry : ∀ {f : Nat} {function : Function}, r.program.functions[f]? = some function →
    function.entry.toNat < r.program.statements.length →
    ∃ site, m.site? function.entry.toNat = some site ∧ site.owner = f ∧
      (site.state = .entry ∨ site.state = .atJoin function.entry.toNat)
  statement : ∀ {i : Nat} {site : Site}, m.site? i = some site → r.IsReturn i ∨
    ∃ inv lib, r.program.statements[i]? = some (.invoke inv) ∧ r.libfunc? inv.libfunc = some lib
  edge : ∀ {i b target : Nat} {site : Site} {lib : ConcreteLibfunc} {sig : BranchSignature},
    m.site? i = some site → r.Edge i b lib sig target →
    ∃ next site', site.after[b]? = some next ∧
      Effect r.program (fun g c => m.changes[g]? = some c) i site.state sig.ap next ∧
      m.site? target = some site' ∧ site'.owner = site.owner ∧
      (site'.state = next ∨ site'.state = .atJoin target)
  change : ∀ {f : Nat} {c : ApChange}, m.changes[f]? = some c →
    ∃ is : List Nat, (∀ i, i ∈ is ↔ r.IsReturn i ∧ m.owner? i = some f) ∧
      c = changeOfReturns (is.filterMap m.state?)

/-- The analysis ends in a state where all that was reached is settled and all functions are done,
with the changes that are recorded. -/
theorem analyze_inv {r : Registry} {m : Metadata} (h : analyze r = .ok m) :
    ∃ s : Progress, m = .ofProgress s ∧ Inv r (fun _ => False) s ∧
      (∀ g < r.program.functions.length, ∃ change, s.status g = .done change) ∧
      ∀ g c, m.changes[g]? = some c ↔ s.Done g c := by
  obtain ⟨s, hresolve, h⟩ := bind_eq_ok.mp h
  cases h
  obtain ⟨hinv, -, hall⟩ := resolveAll_inv (inv_start r fun _ => False)
    (status_start_ne_visiting r.program) (fun g hg => List.mem_range.mp hg) hresolve
  refine ⟨s, rfl, hinv, fun g hg => hall g (List.mem_range.mpr hg), fun g c => ?_⟩
  simp only [Metadata.ofProgress, List.getElem?_map, Progress.Done, Progress.status]
  cases hg : s.functions[g]? with
  | none => simp
  | some status =>
    have hlt : g < r.program.functions.length := by
      rw [← hinv.length_functions]
      exact (List.getElem?_eq_some_iff.mp hg).1
    obtain ⟨change, hdone⟩ := hall g (List.mem_range.mpr hlt)
    obtain rfl : status = .done change := by simpa [Progress.status, hg] using hdone
    simp [Metadata.changeOfStatus]

theorem owner_lt_of_analyze {r : Registry} {m : Metadata} (h : analyze r = .ok m) {i : Nat}
    {site : Site} (hi : m.site? i = some site) : site.owner < r.program.functions.length := by
  obtain ⟨s, rfl, hinv, -⟩ := analyze_inv h
  by_contra hge
  refine hinv.started i site hi ?_
  rw [Progress.status, List.getElem?_eq_none (by rw [hinv.length_functions]; omega),
    Option.getD_none]

theorem exists_of_forall₂_zip {α β γ : Type} {R : α × β → γ → Prop} {xs : List α} {ys : List β}
    {zs : List γ} (h : List.Forall₂ R (xs.zip ys) zs) {b : Nat} {x : α} {y : β}
    (hx : xs[b]? = some x) (hy : ys[b]? = some y) : ∃ z, zs[b]? = some z ∧ R (x, y) z := by
  have hzip : (xs.zip ys)[b]? = some (x, y) := by
    rw [List.getElem?_zip_eq_some]
    exact ⟨hx, hy⟩
  obtain ⟨hlt, hget⟩ := List.getElem?_eq_some_iff.mp hzip
  have hlt' : b < zs.length := by rw [← h.length_eq]; exact hlt
  have hrel := h.get hlt hlt'
  simp only [List.get_eq_getElem, hget] at hrel
  exact ⟨zs[b], List.getElem?_eq_getElem hlt', hrel⟩

/-- The analysis records what fits together. -/
theorem analyze_consistent {r : Registry} {m : Metadata} (h : analyze r = .ok m) :
    m.Consistent r := by
  obtain ⟨s, rfl, hinv, hall, hchange⟩ := analyze_inv h
  refine ⟨(List.length_map _).trans hinv.length_functions, ?_, ?_, ?_, ?_⟩
  · intro f function hfunction hlt
    obtain ⟨change, hdone⟩ := hall f (List.getElem?_eq_some_iff.mp hfunction).1
    exact (hinv.resolved f change hdone).1 function hfunction hlt
  · intro i site hi
    rcases hinv.settled i site hi with hopen | hret | ⟨inv, lib, hinvoke, hlib, -⟩
    · exact hopen.elim
    · exact .inl hret
    · exact .inr ⟨inv, lib, hinvoke, hlib⟩
  · rintro i b target site lib sig hi ⟨inv, branch, hinvoke, hlib, hbranch, hsig, rfl⟩
    rcases hinv.settled i site hi with hopen | ⟨vars, hret⟩ | ⟨inv', lib', hinvoke', hlib', hleads⟩
    · exact hopen.elim
    · rw [hinvoke] at hret
      cases hret
    · obtain rfl : inv = inv' := by simpa [hinvoke] using hinvoke'
      obtain rfl : lib = lib' := by simpa [hlib] using hlib'
      obtain ⟨next, hnext, heffect, target, htarget, howner, hstate⟩ :=
        exists_of_forall₂_zip hleads hbranch hsig
      exact ⟨next, target, hnext, heffect.mono fun g c => (hchange g c).mpr, htarget, howner,
        hstate⟩
  · intro f c hc
    obtain ⟨is, his, hgive⟩ := (hinv.resolved f c ((hchange f c).mp hc)).2
    refine ⟨is, fun i => (his i).trans (and_congr_right fun _ => ?_), hgive⟩
    simp [Metadata.owner?, Metadata.ofProgress, Metadata.site?, Progress.site?]

/-- The positions in a function follow from the changes of functions of lower rank; a call to any
other function has an unknown effect. -/
def Metadata.RankedBy (r : Registry) (m : Metadata) (rank : Nat → Nat) : Prop :=
  ∀ ⦃i b target : Nat⦄ ⦃site : Site⦄ ⦃lib : ConcreteLibfunc⦄ ⦃sig : BranchSignature⦄,
    m.site? i = some site → r.Edge i b lib sig target →
    ∃ next, site.after[b]? = some next ∧
      Effect r.program (fun g c => m.changes[g]? = some c ∧ rank g < rank site.owner) i
        site.state sig.ap next

/-- The functions can be ranked, in the order in which they were resolved. -/
theorem analyze_ranked {r : Registry} {m : Metadata} (h : analyze r = .ok m) :
    ∃ rank, m.RankedBy r rank := by
  have howner := @owner_lt_of_analyze r m h
  obtain ⟨s, rfl, hinv, hall, hchange⟩ := analyze_inv h
  obtain ⟨rank, bound, hranked⟩ := hinv.ranked
  refine ⟨rank, ?_⟩
  rintro i b target site lib sig hi ⟨inv, branch, hinvoke, hlib, hbranch, hsig, rfl⟩
  obtain ⟨c, hdone⟩ := hall site.owner (howner hi)
  obtain ⟨next, hnext, heffect⟩ :=
    exists_of_forall₂_zip (hranked.follows i site c hi hdone inv lib hinvoke hlib) hbranch hsig
  exact ⟨next, hnext, heffect.mono fun g c hg => ⟨(hchange g c).mpr hg.1, hg.2⟩⟩

end SierraCasm
