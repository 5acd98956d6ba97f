import SierraCasm.Proofs.Ap.Course

/-! # Every moment of a successful analysis ends well

If an analysis succeeds, so does all that it does on the way: from every moment that occurs the
current walk comes to its end (`Occurs.exists_walkEnds`), and what the walk through a function ends
with is what the analysis records about that function (`WalkEnds.records`).

Success is handed down from one moment to the next (`Moment.Succeeds.next`).  What is handed down
with it is that functions which are resolved keep their change and their sites (`KeepsDone`). -/

namespace SierraCasm.Ap

open Sierra Concrete

/-- Functions that are resolved in `s` are so in `s'`, with the same change and the same sites. -/
structure KeepsDone (s s' : Progress) : Prop where
  done : ∀ {g : Nat} {c : ApChange}, s.Done g c → s'.Done g c
  site : ∀ {g i : Nat} {c : ApChange} {site : Site}, s.Done g c → site.owner = g →
    (s'.site? i = some site ↔ s.site? i = some site)

section keepsDone

variable {f : Nat} {s s' s'' : Progress}

theorem KeepsDone.refl (s : Progress) : KeepsDone s s := ⟨id, fun _ _ => Iff.rfl⟩

theorem KeepsDone.trans (h : KeepsDone s s') (h' : KeepsDone s' s'') : KeepsDone s s'' where
  done hg := h'.done (h.done hg)
  site hg howner := (h'.site (h.done hg) howner).trans (h.site hg howner)

theorem Progress.Done.ne_unvisited {g : Nat} {c : ApChange} (h : s.Done g c) :
    s.status g ≠ .unvisited := by
  rw [Progress.Done] at h
  rw [h]
  simp

/-- A walk through a function changes nothing about others that are resolved. -/
theorem Extends.keepsDone (h : Extends f s s') (hf : ∀ c, ¬ s.Done f c) : KeepsDone s s' where
  done := h.done
  site {g _ c _} hg howner := by
    refine h.site_iff hg.ne_unvisited ?_ howner
    rintro rfl
    exact hf c hg

theorem Preserves.keepsDone (h : Preserves s s') : KeepsDone s s' where
  done := (h.extends 0).done
  site {g _ _ _} hg howner :=
    (h.extends (g + 1)).site_iff hg.ne_unvisited (Nat.succ_ne_self g).symm howner

theorem KeepsDone.setStatus (hf : ∀ c, ¬ s.Done f c) (change : ApChange) :
    KeepsDone s (s.setStatus f (.done change)) where
  done {g c} hg := by
    have hgf : g ≠ f := by
      rintro rfl
      exact hf c hg
    rw [Progress.Done, Progress.status_setStatus_of_ne hgf]
    exact hg
  site _ _ := Iff.rfl

end keepsDone

/-- What is known when the walk through `f` is over. -/
def Walk.finish (f : Nat) (w : Walk) : Progress :=
  w.progress.setStatus f (.done (changeOfReturns (statesAt w.progress w.returns)))

/-- What is still to be done at a moment succeeds, and the functions that are resolved by then are
kept in `final`. -/
def Moment.Succeeds (r : Registry) (final : Progress) : Moment → Prop
  | .resolve depth f s => ∃ s', Ap.resolve r depth f s = .ok s' ∧ KeepsDone s' final
  | .walk depth f w => ∃ fuel w', walkAll r (Ap.resolve r depth) f fuel w = .ok w' ∧
      KeepsDone (w'.finish f) final
  | .follow depth f i at' after bs w => ∃ after' w₁ fuel w',
      followBranches r.program (Ap.resolve r depth) f i at' bs w = .ok (after', w₁) ∧
      walkAll r (Ap.resolve r depth) f fuel
        { w₁ with progress := w₁.progress.setAfter i (after ++ after') } = .ok w' ∧
      KeepsDone (w'.finish f) final

section succeeds

variable {r : Registry} {depth f i : Nat} {at' : ApState} {after after' : List ApState}
  {bs : List (Branch × BranchSignature)} {w w₁ w' : Walk} {s s' final : Progress}

theorem walkAll_cons_eq_ok {resolve : Resolver} {fuel : Nat} {rest : List Nat}
    (hpending : w.pending = i :: rest) (h : walkAll r resolve f fuel w = .ok w') :
    ∃ fuel' w₁, visit r resolve f i { w with pending := rest } = .ok w₁ ∧
      walkAll r resolve f fuel' w₁ = .ok w' := by
  cases fuel with
  | zero =>
    simp only [walkAll, hpending] at h
    cases h
  | succ fuel =>
    simp only [walkAll, hpending, note_bind] at h
    obtain ⟨w₁, hvisit, h⟩ := bind_eq_ok.mp h
    exact ⟨fuel, w₁, hvisit, h⟩

theorem walkAll_nil_eq_ok {resolve : Resolver} {fuel : Nat} (hpending : w.pending = [])
    (h : walkAll r resolve f fuel w = .ok w') : w' = w := by
  cases fuel with
  | zero =>
    simp only [walkAll, hpending] at h
    cases h
    rfl
  | succ fuel =>
    simp only [walkAll, hpending] at h
    cases h
    rfl

/-- The position after a call is that of the change which the callee has once it was resolved. -/
theorem advance_call_eq_ok {resolve : Resolver} {e : ApEffect} {callee : Ident} {g : Nat}
    {next : ApState} (hap : e = .call callee) (hg : r.program.functionIndex? callee = some g)
    (h : advance r.program resolve i at' e s = .ok (next, s')) :
    resolve g s = .ok s' ∧ next = at'.afterCall i (Metadata.changeOfStatus (s'.status g)) := by
  subst hap
  obtain ⟨⟨change, s₁⟩, hchange, h⟩ := bind_eq_ok.mp h
  cases h
  simp only [calleeChange, hg] at hchange
  obtain ⟨s₂, hresolve, hstatus⟩ := bind_eq_ok.mp hchange
  cases hs : s₂.status g with
  | done c | unvisited | visiting =>
    simp only [hs] at hstatus
    cases hstatus
    rw [hs]
    exact ⟨hresolve, rfl⟩

/-- From a moment where branches are followed to the end of the walk only the walk's own sites
change. -/
theorem Occurs.extends_of_follow {fuel : Nat} (h : Occurs r (.follow depth f i at' after bs w))
    (hfollow : Ap.followBranches r.program (resolve r depth) f i at' bs w = .ok (after', w₁))
    (hwalk : Ap.walkAll r (resolve r depth) f fuel
      { w₁ with progress := w₁.progress.setAfter i (after ++ after') } = .ok w') :
    WalkEnds r depth f w' ∧ Extends f w.progress w'.progress ∧
      w'.progress.status f = .visiting := by
  obtain ⟨Open, hinv⟩ := h.sound
  obtain ⟨-, hgrows, -⟩ := followBranches_inv (resolve_sound r depth) hinv.walk hfollow
  have hfollowed := h.followBranches hfollow
  obtain ⟨Open₁, hinv₁⟩ := hfollowed.sound
  obtain ⟨hw₁, hsettle⟩ := hinv₁.settle
  obtain ⟨hw', -, hext⟩ := walkAll_inv (resolve_sound r depth) hw₁ hwalk
  exact ⟨(hfollowed.next .settle).walkAll hwalk, (hgrows.progress.trans hsettle).trans hext,
    hw'.visiting⟩

theorem Moment.Succeeds.next {x y : Moment} (hoccurs : Occurs r x) (hx : x.Succeeds r final)
    (h : x.Next r y) : y.Succeeds r final := by
  cases h with
  | enter hunvisited hfunction hlt hmerge =>
    obtain ⟨s', hresolve, hkeeps⟩ := hx
    rcases resolve_eq_ok hresolve with ⟨function', change, walked, -, hfunction', hwalk, rfl⟩ |
      ⟨hnone, -⟩
    · cases hfunction.symm.trans hfunction'
      rcases walk_eq_ok hwalk with ⟨-, changed, reached, w', hmerge', hwalkAll, rfl, rfl⟩ |
        ⟨hge, -⟩
      · cases hmerge.symm.trans hmerge'
        exact ⟨_, w', hwalkAll, hkeeps⟩
      · exact absurd hlt hge
    · cases hfunction.symm.trans (hnone hunvisited)
  | noteReturn hpending hsite hret =>
    obtain ⟨fuel, w', hwalk, hkeeps⟩ := hx
    obtain ⟨fuel', w₁, hvisit, hwalk⟩ := walkAll_cons_eq_ok hpending hwalk
    simp only [visit, hret, hsite] at hvisit
    cases hvisit
    exact ⟨fuel', w', hwalk, hkeeps⟩
  | takeUp hpending hsite hinvoke hlib =>
    obtain ⟨fuel, w', hwalk, hkeeps⟩ := hx
    obtain ⟨fuel', w₁, hvisit, hwalk⟩ := walkAll_cons_eq_ok hpending hwalk
    simp only [visit, hinvoke, hsite, hlib] at hvisit
    obtain ⟨⟨after', w₂⟩, hfollow, hvisit⟩ := bind_eq_ok.mp hvisit
    cases hvisit
    exact ⟨after', w₂, fuel', w', hfollow, hwalk, hkeeps⟩
  | @call depth f i g at' after branch sig bs w callee hap hg =>
    obtain ⟨after', w₁, fuel, w', hfollow, hwalk, hkeeps⟩ := hx
    obtain ⟨next, s₁, w₂, after₂, hadvance, hlt, harrive, hrest, rfl⟩ :=
      followBranches_cons_eq_ok hfollow
    refine ⟨s₁, (advance_call_eq_ok hap hg hadvance).1, ?_⟩
    -- After the callee was resolved, the caller's walk goes on to its end.
    obtain ⟨Open, hinv⟩ := hoccurs.sound
    obtain ⟨hinv₁, hpreserves, -⟩ :=
      advance_sound (resolve_sound r depth) hadvance hinv.walk.inv
    have hw₁ := hinv.walk.preserves hinv₁ hpreserves
    obtain ⟨-, hgrows, -⟩ := arrive_inv hw₁ hlt harrive
    rw [← List.singleton_append, ← List.append_assoc] at hwalk
    obtain ⟨-, hext, hvisiting⟩ :=
      (hoccurs.next (.arrive hadvance hlt harrive)).extends_of_follow hrest hwalk
    exact ((hgrows.progress.trans hext).keepsDone (not_done_of_visiting hw₁.visiting)).trans
      ((KeepsDone.setStatus (not_done_of_visiting hvisiting) _).trans hkeeps)
  | arrive hadvance hlt harrive =>
    obtain ⟨after', w₁, fuel, w', hfollow, hwalk, hkeeps⟩ := hx
    obtain ⟨next, s₁, w₂, after₂, hadvance', -, harrive', hrest, rfl⟩ :=
      followBranches_cons_eq_ok hfollow
    rw [hadvance] at hadvance'
    cases hadvance'
    rw [harrive] at harrive'
    cases harrive'
    rw [← List.singleton_append, ← List.append_assoc] at hwalk
    exact ⟨after₂, w₁, fuel, w', hrest, hwalk, hkeeps⟩
  | settle =>
    obtain ⟨after', w₁, fuel, w', hfollow, hwalk, hkeeps⟩ := hx
    cases hfollow
    rw [List.append_nil] at hwalk
    exact ⟨fuel, w', hwalk, hkeeps⟩

theorem resolveAll_keepsDone {Open : Nat → Prop} {fs : List Nat} (hinv : Inv r Open s)
    (h : resolveAll r fs s = .ok s') : KeepsDone s s' := by
  induction fs generalizing s with
  | nil =>
    cases h
    exact .refl _
  | cons f fs ih =>
    obtain ⟨s₁, hresolve, h⟩ := bind_eq_ok.mp h
    obtain ⟨hinv₁, hpreserves⟩ := resolve_sound r _ Open f s s₁ hresolve hinv
    exact hpreserves.keepsDone.trans (ih hinv₁ h)

theorem resolveAll_append_eq_ok {before fs : List Nat} {s₀ : Progress}
    (h : resolveAll r (before ++ fs) s₀ = .ok s') (hbefore : resolveAll r before s₀ = .ok s) :
    resolveAll r fs s = .ok s' := by
  induction before generalizing s₀ with
  | nil =>
    cases hbefore
    exact h
  | cons f before ih =>
    obtain ⟨s₁, hresolve, h⟩ := bind_eq_ok.mp h
    obtain ⟨s₂, hresolve', hbefore⟩ := bind_eq_ok.mp hbefore
    rw [hresolve] at hresolve'
    cases hresolve'
    exact ih h hbefore

/-- If all functions are resolved with success, every moment on the way ends well. -/
theorem Occurs.succeeds {x : Moment}
    (hall : resolveAll r (List.range r.program.functions.length) (.start r.program) = .ok final)
    (h : Occurs r x) : x.Succeeds r final := by
  induction h with
  | root hrange hbefore =>
    rw [hrange] at hall
    obtain ⟨s', hresolve, hrest⟩ := bind_eq_ok.mp (resolveAll_append_eq_ok hall hbefore)
    obtain ⟨hinv, -⟩ :=
      resolve_sound r _ _ _ _ _ hresolve (inv_of_root hrange hbefore)
    exact ⟨s', hresolve, resolveAll_keepsDone hinv hrest⟩
  | next hoccurs hnext ih => exact ih.next hoccurs hnext

end succeeds

/-! ### What is recorded -/

/-- What is recorded about function `f` is what a walk ends with. -/
structure Records (m : Metadata) (f : Nat) (w : Walk) : Prop where
  site : ∀ {i : Nat} {site : Site}, site.owner = f →
    (m.site? i = some site ↔ w.progress.site? i = some site)
  change : m.changes[f]? = some (changeOfReturns (statesAt w.progress w.returns))
  done : ∀ {g : Nat} {c : ApChange}, w.progress.Done g c → m.changes[g]? = some c

section records

variable {r : Registry} {m : Metadata} {depth f i : Nat} {at' next : ApState}
  {after : List ApState} {bs : List (Branch × BranchSignature)} {w : Walk}

theorem changes_of_done {s : Progress} {g : Nat} {c : ApChange} (h : s.Done g c) :
    (Metadata.ofProgress s).changes[g]? = some c := by
  have hg := List.getElem?_eq_getElem (Progress.lt_of_status_ne h.ne_unvisited)
  rw [Progress.Done, Progress.status, hg, Option.getD_some] at h
  simp only [Metadata.ofProgress, List.getElem?_map, hg, h, Option.map_some,
    Metadata.changeOfStatus]

theorem WalkEnds.records (hw : WalkEnds r depth f w) (h : analyze r = .ok m) : Records m f w := by
  obtain ⟨s, hresolve, hs⟩ := bind_eq_ok.mp h
  cases hs
  obtain ⟨hoccurs, hpending⟩ := hw
  obtain ⟨fuel, w', hwalk, hkeeps⟩ := hoccurs.succeeds hresolve
  obtain rfl := walkAll_nil_eq_ok hpending hwalk
  obtain ⟨Open, hinv⟩ := hoccurs.sound
  have hdone : (w'.finish f).Done f _ := Progress.status_setStatus_self
    (Progress.lt_of_status_ne (by rw [hinv.visiting]; simp)) _
  refine ⟨fun howner => hkeeps.site hdone howner, changes_of_done (hkeeps.done hdone),
    fun hg => changes_of_done (hkeeps.done ?_)⟩
  exact (KeepsDone.setStatus (not_done_of_visiting hinv.visiting) _).done hg

/-- From every moment where branches are followed the walk comes to its end. -/
theorem Occurs.exists_walkEnds (hoccurs : Occurs r (.follow depth f i at' after bs w))
    (h : analyze r = .ok m) :
    ∃ w', WalkEnds r depth f w' ∧ Extends f w.progress w'.progress := by
  obtain ⟨s, hresolve, -⟩ := bind_eq_ok.mp h
  obtain ⟨after', w₁, fuel, w', hfollow, hwalk, -⟩ := hoccurs.succeeds hresolve
  obtain ⟨hends, hext, -⟩ := hoccurs.extends_of_follow hfollow hwalk
  exact ⟨w', hends, hext⟩

end records

end SierraCasm.Ap
