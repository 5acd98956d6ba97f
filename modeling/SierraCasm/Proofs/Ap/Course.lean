import SierraCasm.Proofs.Ap.Fixpoint

/-! # The course of the analysis

The analysis resolves functions in the middle of walks through other functions.  A `Moment` is a
point of its course: a function is to be resolved, a walk is between two visits, or the branches of
a statement are being followed.  `Moment.Next` leads from one moment to the next through the
operations of the analysis itself, and `Occurs` tells which moments come up in the analysis of a
program.

What holds at a moment is carried through one step (`Moment.Sound.next`) and so holds at every
moment (`Occurs.sound`).  A walk that succeeds comes to a moment with nothing pending
(`Occurs.walkAll`), every function with a body that is resolved was walked through
(`exists_walkEnds`), and an analysis that finds paths at different tracked positions stops at a
moment where one of them arrives (`exists_mismatchAt`). -/

namespace SierraCasm.Ap

open Sierra Concrete

/-- A point in the course of the analysis. -/
inductive Moment where
  /-- function `f` is to be resolved, and calls may nest `depth` deep -/
  | resolve (depth f : Nat) (s : Progress)
  /-- the walk through `f` goes on with its first pending statement -/
  | walk (depth f : Nat) (w : Walk)
  /-- statement `i` of `f` was taken up at position `at'`; the branches `bs` are still to be
  followed, and those before them led to the positions `after` -/
  | follow (depth f i : Nat) (at' : ApState) (after : List ApState)
      (bs : List (Branch × BranchSignature)) (w : Walk)

/-- The analysis goes on from one moment to another.  From a call it does so twice: to resolve the
callee, and with what is known afterwards. -/
inductive Moment.Next (r : Registry) : Moment → Moment → Prop
  | enter {depth f : Nat} {s s₁ : Progress} {function : Function} {changed : Bool} :
      s.status f = .unvisited → r.program.functions[f]? = some function →
      function.entry.toNat < r.program.statements.length →
      merge r.program f function.entry.toNat .entry (s.setStatus f .visiting) = .ok (changed, s₁) →
      Next r (.resolve (depth + 1) f s)
        (.walk depth f { pending := [function.entry.toNat], progress := s₁ })
  | noteReturn {depth f i : Nat} {w : Walk} {rest : List Nat} {site : Site} {vars : List VarId} :
      w.pending = i :: rest → w.progress.site? i = some site →
      r.program.statements[i]? = some (.ret vars) →
      Next r (.walk depth f w)
        (.walk depth f { w with pending := rest, returns := w.returns ++ [i] })
  | takeUp {depth f i : Nat} {w : Walk} {rest : List Nat} {site : Site} {inv : Invocation}
      {lib : ConcreteLibfunc} :
      w.pending = i :: rest → w.progress.site? i = some site →
      r.program.statements[i]? = some (.invoke inv) → r.libfunc? inv.libfunc = some lib →
      Next r (.walk depth f w)
        (.follow depth f i site.state [] (inv.branches.zip lib.signature.branches)
          { w with pending := rest })
  | call {depth f i g : Nat} {at' : ApState} {after : List ApState} {branch : Branch}
      {sig : BranchSignature} {bs : List (Branch × BranchSignature)} {w : Walk} {callee : Ident} :
      sig.ap = .call callee → r.program.functionIndex? callee = some g →
      Next r (.follow depth f i at' after ((branch, sig) :: bs) w) (.resolve depth g w.progress)
  | arrive {depth f i : Nat} {at' next : ApState} {after : List ApState} {branch : Branch}
      {sig : BranchSignature} {bs : List (Branch × BranchSignature)} {w w' : Walk} {s : Progress} :
      advance r.program (Ap.resolve r depth) i at' sig.ap w.progress = .ok (next, s) →
      (branch.target.resolve i).toNat < r.program.statements.length →
      Walk.arrive r.program f (branch.target.resolve i).toNat next { w with progress := s } =
        .ok w' →
      Next r (.follow depth f i at' after ((branch, sig) :: bs) w)
        (.follow depth f i at' (after ++ [next]) bs w')
  | settle {depth f i : Nat} {at' : ApState} {after : List ApState} {w : Walk} :
      Next r (.follow depth f i at' after [] w)
        (.walk depth f { w with progress := w.progress.setAfter i after })

/-- The moments that come up when the functions of a program are resolved in order. -/
inductive Occurs (r : Registry) : Moment → Prop
  | root {f : Nat} {before rest : List Nat} {s : Progress} :
      List.range r.program.functions.length = before ++ f :: rest →
      resolveAll r before (.start r.program) = .ok s →
      Occurs r (.resolve (r.program.functions.length + 1) f s)
  | next {x y : Moment} : Occurs r x → x.Next r y → Occurs r y

/-- The walk through `f` comes to its end with nothing pending. -/
def WalkEnds (r : Registry) (depth f : Nat) (w : Walk) : Prop :=
  Occurs r (.walk depth f w) ∧ w.pending = []

/-! ### What holds at every moment -/

/-- The invariant while the branches of a statement are followed: those behind lead where they
should, and if paths have joined at the statement since it was taken up, it is pending again. -/
structure FollowInv (r : Registry) (Open : Nat → Prop) (f i : Nat) (at' : ApState)
    (after : List ApState) (bs : List (Branch × BranchSignature)) (w : Walk) : Prop where
  walk : WalkInv r (fun j => Open j ∨ j = i) f w
  branches : ∃ inv lib before, r.program.statements[i]? = some (.invoke inv) ∧
    r.libfunc? inv.libfunc = some lib ∧ inv.branches.zip lib.signature.branches = before ++ bs ∧
    List.Forall₂ (Leads r.program w.progress f i at') before after
  site : ∃ site, w.progress.site? i = some site ∧ site.owner = f ∧
    (site.state = at' ∨ site.state = .atJoin i ∧ i ∈ w.pending)

/-- The invariant of the analysis at a moment. -/
def Moment.Sound (r : Registry) : Moment → Prop
  | .resolve _ _ s => ∃ Open, Inv r Open s
  | .walk _ f w => ∃ Open, WalkInv r Open f w
  | .follow _ f i at' after bs w => ∃ Open, FollowInv r Open f i at' after bs w

section sound

variable {r : Registry} {Open : Nat → Prop} {depth f i : Nat} {at' next : ApState}
  {after : List ApState} {branch : Branch} {sig : BranchSignature}
  {bs : List (Branch × BranchSignature)} {w w' : Walk} {s : Progress}

theorem FollowInv.edge (h : FollowInv r Open f i at' after ((branch, sig) :: bs) w) :
    ∃ lib, r.Edge i after.length lib sig (branch.target.resolve i).toNat := by
  obtain ⟨inv, lib, before, hinvoke, hlib, hzip, hleads⟩ := h.branches
  have hget : (inv.branches.zip lib.signature.branches)[after.length]? = some (branch, sig) := by
    rw [hzip, ← hleads.length_eq, List.getElem?_append_right (Nat.le_refl _), Nat.sub_self]
    rfl
  rw [List.getElem?_zip_eq_some] at hget
  exact ⟨lib, inv, branch, hinvoke, hlib, hget.1, hget.2, rfl⟩

/-- A walk that goes on leaves a statement at the position where it was taken up, or takes it up
again. -/
theorem Grows.taken (h : Grows f w w')
    (hsite : ∃ site, w.progress.site? i = some site ∧ site.owner = f ∧
      (site.state = at' ∨ site.state = .atJoin i ∧ i ∈ w.pending)) :
    ∃ site, w'.progress.site? i = some site ∧ site.owner = f ∧
      (site.state = at' ∨ site.state = .atJoin i ∧ i ∈ w'.pending) := by
  obtain ⟨site, hi, howner, hstate⟩ := hsite
  rcases h.own i site hi howner with hsame | hpending
  · exact ⟨site, hsame, howner, hstate.imp_right fun hjoin => ⟨hjoin.1, h.pending i hjoin.2⟩⟩
  · obtain ⟨site', hi', howner', heq | hjoin⟩ := h.progress.own i site hi howner
    · rw [← heq] at hstate
      exact ⟨site', hi', howner', hstate.imp_right fun hjoin => ⟨hjoin.1, hpending⟩⟩
    · exact ⟨site', hi', howner', .inr ⟨hjoin, hpending⟩⟩

theorem FollowInv.arrive (h : FollowInv r Open f i at' after ((branch, sig) :: bs) w)
    (hadvance : advance r.program (resolve r depth) i at' sig.ap w.progress = .ok (next, s))
    (hlt : (branch.target.resolve i).toNat < r.program.statements.length)
    (harrive : Walk.arrive r.program f (branch.target.resolve i).toNat next
      { w with progress := s } = .ok w') :
    FollowInv r Open f i at' (after ++ [next]) bs w' ∧ Grows f w w' := by
  obtain ⟨hw', hgrows, -, hleads⟩ :=
    followBranch_inv (resolve_sound r depth) h.walk hadvance hlt harrive
  obtain ⟨inv, lib, before, hinvoke, hlib, hzip, hbefore⟩ := h.branches
  refine ⟨⟨hw', ⟨inv, lib, before ++ [(branch, sig)], hinvoke, hlib, ?_, ?_⟩,
    hgrows.taken h.site⟩, hgrows⟩
  · rw [hzip, List.append_assoc, List.singleton_append]
  · exact List.rel_append (hbefore.imp fun _ _ => Leads.mono hgrows.progress) (.cons hleads .nil)

theorem FollowInv.settle (h : FollowInv r Open f i at' after [] w) :
    WalkInv r Open f { w with progress := w.progress.setAfter i after } ∧
      Extends f w.progress (w.progress.setAfter i after) := by
  obtain ⟨inv, lib, before, hinvoke, hlib, hzip, hleads⟩ := h.branches
  obtain ⟨site, hsite, howner, hstate⟩ := h.site
  refine h.walk.settle hsite howner hinvoke hlib after ?_
  rcases hstate with rfl | ⟨-, hpending⟩
  · rw [hzip, List.append_nil]
    exact .inr hleads
  · exact .inl hpending

theorem WalkInv.noteReturn {rest : List Nat} {site : Site} {vars : List VarId}
    (h : WalkInv r Open f w) (hpending : w.pending = i :: rest)
    (hsite : w.progress.site? i = some site)
    (hret : r.program.statements[i]? = some (.ret vars)) :
    WalkInv r Open f { w with pending := rest, returns := w.returns ++ [i] } := by
  have hvisit : visit r (resolve r 0) f i { w with pending := rest } =
      .ok { w with pending := rest, returns := w.returns ++ [i] } := by
    simp only [visit, hret, hsite]
    rfl
  exact (visit_inv (resolve_sound r 0) h hpending hvisit).1

theorem WalkInv.follow {rest : List Nat} {site : Site} {inv : Invocation} {lib : ConcreteLibfunc}
    (h : WalkInv r Open f w) (hpending : w.pending = i :: rest)
    (hsite : w.progress.site? i = some site)
    (hinvoke : r.program.statements[i]? = some (.invoke inv))
    (hlib : r.libfunc? inv.libfunc = some lib) :
    FollowInv r Open f i site.state [] (inv.branches.zip lib.signature.branches)
      { w with pending := rest } := by
  obtain ⟨site', hsite', howner⟩ := h.pending i (by rw [hpending]; exact List.mem_cons_self)
  obtain rfl : site = site' := Option.some.inj (hsite.symm.trans hsite')
  exact ⟨h.takeUp hpending hinvoke, ⟨inv, lib, [], hinvoke, hlib, rfl, .nil⟩,
    site, hsite, howner, .inl rfl⟩

/-- The walk through a function that was not visited begins at its entry. -/
theorem Inv.enter {function : Function} {changed : Bool} {s₁ : Progress} (h : Inv r Open s)
    (hunvisited : s.status f = .unvisited) (hfunction : r.program.functions[f]? = some function)
    (hlt : function.entry.toNat < r.program.statements.length)
    (hmerge : merge r.program f function.entry.toNat .entry (s.setStatus f .visiting) =
      .ok (changed, s₁)) :
    s₁ = (s.setStatus f .visiting).setSite function.entry.toNat { state := .entry, owner := f } ∧
      WalkInv r Open f { pending := [function.entry.toNat], progress := s₁ } ∧
      Extends f (s.setStatus f .visiting) s₁ := by
  have hf := h.lt_functions hfunction
  exact WalkInv.enter (h.begin hunvisited hf) (Progress.status_setStatus_self hf _)
    (h.owner_ne hunvisited) hlt hmerge

/-! ### What one step does to the sites of the function -/

/-- A walk begins with the entry as the only site of its function. -/
theorem Inv.site_of_enter {function : Function} {changed : Bool} {s₁ : Progress} {j : Nat}
    {site : Site} (h : Inv r Open s) (hunvisited : s.status f = .unvisited)
    (hfunction : r.program.functions[f]? = some function)
    (hlt : function.entry.toNat < r.program.statements.length)
    (hmerge : merge r.program f function.entry.toNat .entry (s.setStatus f .visiting) =
      .ok (changed, s₁))
    (hj : s₁.site? j = some site) (howner : site.owner = f) :
    j = function.entry.toNat ∧ site.state = .entry := by
  obtain ⟨rfl, -, -⟩ := h.enter hunvisited hfunction hlt hmerge
  by_cases heq : j = function.entry.toNat
  · subst heq
    rw [Progress.site?_setSite_self (by rw [← h.length_sites] at hlt; exact hlt)] at hj
    cases hj
    exact ⟨rfl, rfl⟩
  · rw [Progress.site?_setSite_of_ne heq, Progress.site?_setStatus] at hj
    exact absurd (howner ▸ hunvisited) (h.started j site hj)

/-- A merge that changes the position at a statement met another one there. -/
theorem merge_changed_ne {p : Program} {changed : Bool} {s' : Progress} {site : Site}
    (h : merge p f i at' s = .ok (changed, s')) (hchanged : changed = true)
    (hsite : s.site? i = some site) : site.state ≠ at' := by
  subst hchanged
  rintro rfl
  unfold merge at h
  simp only [hsite, if_true] at h
  split at h <;> cases h

/-- A branch that is followed changes at most the site of its target, which is pending then. -/
theorem FollowInv.site_of_arrive {j : Nat} {site : Site}
    (h : FollowInv r Open f i at' after ((branch, sig) :: bs) w)
    (hadvance : advance r.program (resolve r depth) i at' sig.ap w.progress = .ok (next, s))
    (hlt : (branch.target.resolve i).toNat < r.program.statements.length)
    (harrive : Walk.arrive r.program f (branch.target.resolve i).toNat next
      { w with progress := s } = .ok w')
    (hj : w'.progress.site? j = some site) (howner : site.owner = f) :
    w.progress.site? j = some site ∨
      j = (branch.target.resolve i).toNat ∧ j ∈ w'.pending ∧
        (site.state = next ∨ site.state = .atJoin j ∧
          ∃ site₀, w.progress.site? j = some site₀ ∧ site₀.owner = f ∧ site₀.state ≠ next) := by
  obtain ⟨hinv, hpreserves, -⟩ := advance_sound (resolve_sound r depth) hadvance h.walk.inv
  -- Resolving callees adds no sites to a function that is being walked through.
  have hold : ∀ {site₀}, s.site? j = some site₀ → site₀.owner = f →
      w.progress.site? j = some site₀ := fun hs howner₀ =>
    ((hpreserves.extends (f + 1)).site_iff (by rw [h.walk.visiting]; simp)
      (Nat.succ_ne_self f).symm howner₀).mp hs
  obtain ⟨changed, progress', hmerge, rfl⟩ := arrive_eq_ok harrive
  by_cases heq : j = (branch.target.resolve i).toNat
  · subst heq
    have hlt' : (branch.target.resolve i).toNat < s.sites.length := by
      rw [hinv.length_sites]
      exact hlt
    rcases merge_cases hmerge with ⟨-, rfl, rfl⟩ | ⟨site₀, -, -, -, rfl, rfl⟩ |
      ⟨site₀, hsite₀, howner₀, rfl, rfl⟩
    · rw [Progress.site?_setSite_self hlt'] at hj
      cases hj
      exact .inr ⟨rfl, (Ascending.mem_insert _ _ _).mpr (.inl rfl), .inl rfl⟩
    · exact .inl (hold hj howner)
    · rw [Progress.site?_setSite_self hlt'] at hj
      cases hj
      exact .inr ⟨rfl, (Ascending.mem_insert _ _ _).mpr (.inl rfl), .inr ⟨rfl, site₀,
        hold hsite₀ howner₀, howner₀, merge_changed_ne hmerge rfl hsite₀⟩⟩
  · left
    rcases merge_cases hmerge with ⟨-, rfl, rfl⟩ | ⟨site₀, -, -, -, rfl, rfl⟩ |
      ⟨site₀, -, -, rfl, rfl⟩
    · rw [Progress.site?_setSite_of_ne heq] at hj
      exact hold hj howner
    · exact hold hj howner
    · rw [Progress.site?_setSite_of_ne heq] at hj
      exact hold hj howner

theorem site_of_setAfter {j : Nat} {site : Site} (hi : (s.site? i).isSome)
    (hj : (s.setAfter i after).site? j = some site) :
    (j ≠ i ∧ s.site? j = some site) ∨
      j = i ∧ ∃ site₀, s.site? i = some site₀ ∧ site = { site₀ with after := after } := by
  obtain ⟨site₀, hsite₀⟩ := Option.isSome_iff_exists.mp hi
  rw [Progress.setAfter_eq hsite₀] at hj
  by_cases heq : j = i
  · subst heq
    rw [Progress.site?_setSite_self (Progress.lt_of_site? hsite₀)] at hj
    cases hj
    exact .inr ⟨rfl, site₀, hsite₀, rfl⟩
  · rw [Progress.site?_setSite_of_ne heq] at hj
    exact .inl ⟨heq, hj⟩

end sound

section course

variable {r : Registry} {depth f : Nat}

theorem Moment.Sound.next {x y : Moment} (hx : x.Sound r) (h : x.Next r y) : y.Sound r := by
  cases h with
  | enter hunvisited hfunction hlt hmerge =>
    obtain ⟨Open, hinv⟩ := hx
    exact ⟨Open, (hinv.enter hunvisited hfunction hlt hmerge).2.1⟩
  | noteReturn hpending hsite hret =>
    obtain ⟨Open, hw⟩ := hx
    exact ⟨Open, hw.noteReturn hpending hsite hret⟩
  | takeUp hpending hsite hinvoke hlib =>
    obtain ⟨Open, hw⟩ := hx
    exact ⟨Open, hw.follow hpending hsite hinvoke hlib⟩
  | call _ _ =>
    obtain ⟨Open, hfollow⟩ := hx
    exact ⟨_, hfollow.walk.inv⟩
  | arrive hadvance hlt harrive =>
    obtain ⟨Open, hfollow⟩ := hx
    exact ⟨Open, (hfollow.arrive hadvance hlt harrive).1⟩
  | settle =>
    obtain ⟨Open, hfollow⟩ := hx
    exact ⟨Open, hfollow.settle.1⟩

/-- Between the functions that are resolved first the invariant holds, and no walk is going on. -/
theorem inv_of_root {before rest : List Nat} {s : Progress}
    (hrange : List.range r.program.functions.length = before ++ f :: rest)
    (h : resolveAll r before (.start r.program) = .ok s) : Inv r (fun _ => False) s := by
  have hlt : ∀ g ∈ before, g < r.program.functions.length := by
    intro g hg
    rw [← List.mem_range, hrange]
    exact List.mem_append_left _ hg
  exact (resolveAll_inv (inv_start r _) (status_start_ne_visiting r.program) hlt h).1

theorem Occurs.sound {x : Moment} (h : Occurs r x) : x.Sound r := by
  induction h with
  | root hrange hresolve => exact ⟨_, inv_of_root hrange hresolve⟩
  | next _ hnext ih => exact ih.next hnext

/-! ### Walks that succeed -/

/-- Branches that are followed with success lead to the moment behind the last of them. -/
theorem Occurs.followBranches {i : Nat} {at' : ApState} {after after' : List ApState}
    {bs : List (Branch × BranchSignature)} {w w' : Walk}
    (h : Occurs r (.follow depth f i at' after bs w))
    (hfollow : Ap.followBranches r.program (resolve r depth) f i at' bs w = .ok (after', w')) :
    Occurs r (.follow depth f i at' (after ++ after') [] w') := by
  induction bs generalizing after after' w with
  | nil =>
    cases hfollow
    rwa [List.append_nil]
  | cons b bs ih =>
    obtain ⟨next, s, w₁, after₁, hadvance, hlt, harrive, hrest, rfl⟩ :=
      followBranches_cons_eq_ok hfollow
    rw [← List.singleton_append, ← List.append_assoc]
    exact ih (h.next (.arrive hadvance hlt harrive)) hrest

theorem Occurs.visit {i : Nat} {rest : List Nat} {w w' : Walk} (h : Occurs r (.walk depth f w))
    (hpending : w.pending = i :: rest)
    (hvisit : Ap.visit r (resolve r depth) f i { w with pending := rest } = .ok w') :
    Occurs r (.walk depth f w') := by
  obtain ⟨site, hsite, ⟨vars, hret, rfl⟩ | ⟨inv, lib, after, w₁, hinvoke, hlib, hfollow, rfl⟩⟩ :=
    visit_eq_ok hvisit
  · exact h.next (.noteReturn hpending hsite hret)
  · exact ((h.next (.takeUp hpending hsite hinvoke hlib)).followBranches hfollow).next .settle

theorem Occurs.walkAll {fuel : Nat} {w w' : Walk} (h : Occurs r (.walk depth f w))
    (hwalk : Ap.walkAll r (resolve r depth) f fuel w = .ok w') : WalkEnds r depth f w' :=
  walkAll_induct (P := fun w => Occurs r (.walk depth f w)) hwalk h
    fun hoccurs hpending hvisit => hoccurs.visit hpending hvisit

/-! ### Resolved functions were walked through -/

/-- Function `f` has a body: its entry lies in the program. -/
def HasBody (r : Registry) (f : Nat) : Prop :=
  ∃ function, r.program.functions[f]? = some function ∧
    function.entry.toNat < r.program.statements.length

/-- Only functions with a body have sites, and those that are resolved were walked through. -/
structure Walked (r : Registry) (s : Progress) : Prop where
  done : ∀ {g : Nat} {c : ApChange}, s.Done g c → HasBody r g → ∃ depth w, WalkEnds r depth g w
  site : ∀ {i : Nat} {site : Site}, s.site? i = some site → HasBody r site.owner

section walked

variable {i : Nat} {at' : ApState} {s s' : Progress} {w w' : Walk}

theorem Walked.setSite {site : Site} (h : Walked r s) (hbody : HasBody r site.owner) :
    Walked r (s.setSite i site) where
  done := h.done
  site {j site'} hj := by
    by_cases heq : j = i
    · subst heq
      have hlt := Progress.lt_of_site? hj
      rw [Progress.length_sites_setSite] at hlt
      rw [Progress.site?_setSite_self hlt] at hj
      cases hj
      exact hbody
    · rw [Progress.site?_setSite_of_ne heq] at hj
      exact h.site hj

theorem Walked.merge {p : Program} {changed : Bool} (h : Walked r s) (hbody : HasBody r f)
    (hmerge : Ap.merge p f i at' s = .ok (changed, s')) : Walked r s' := by
  rcases merge_cases hmerge with ⟨-, -, rfl⟩ | ⟨_, -, -, -, -, rfl⟩ | ⟨_, -, rfl, -, rfl⟩
  · exact h.setSite hbody
  · exact h
  · exact h.setSite hbody

theorem Walked.arrive {p : Program} (h : Walked r w.progress) (hbody : HasBody r f)
    (harrive : Walk.arrive p f i at' w = .ok w') : Walked r w'.progress := by
  obtain ⟨changed, progress', hmerge, rfl⟩ := arrive_eq_ok harrive
  exact h.merge hbody hmerge

theorem Walked.setAfter (h : Walked r s) (after : List ApState) :
    Walked r (s.setAfter i after) := by
  unfold Progress.setAfter
  split
  · rename_i site hsite
    have hbody := h.site hsite
    exact h.setSite hbody
  · exact h

/-- The functions that are resolved in a new status of one of them were so before, or are that
one. -/
theorem Walked.setStatus {status : Status} (h : Walked r s) (hlt : f < s.functions.length)
    (hself : ∀ c, status = .done c → HasBody r f → ∃ depth w, WalkEnds r depth f w) :
    Walked r (s.setStatus f status) where
  done {g c} hdone hbody := by
    rw [Progress.Done] at hdone
    by_cases hgf : g = f
    · subst hgf
      rw [Progress.status_setStatus_self hlt] at hdone
      exact hself c hdone hbody
    · rw [Progress.status_setStatus_of_ne hgf] at hdone
      exact h.done hdone hbody
  site := h.site

end walked

/-- A resolver leaves no function resolved that was not walked through. -/
def Resolver.Walks (r : Registry) (depth : Nat) : Prop :=
  ∀ ⦃g : Nat⦄ ⦃s s' : Progress⦄, Occurs r (.resolve depth g s) → resolve r depth g s = .ok s' →
    Walked r s → Walked r s'

theorem advance_walked (hwalks : Resolver.Walks r depth) {i : Nat} {at' next : ApState}
    {after : List ApState} {branch : Branch} {sig : BranchSignature}
    {bs : List (Branch × BranchSignature)} {w : Walk} {s : Progress}
    (h : Occurs r (.follow depth f i at' after ((branch, sig) :: bs) w))
    (hadvance : advance r.program (resolve r depth) i at' sig.ap w.progress = .ok (next, s))
    (hw : Walked r w.progress) : Walked r s := by
  unfold advance at hadvance
  split at hadvance
  · cases hadvance
    exact hw
  · rename_i callee hap
    obtain ⟨⟨change, s₁⟩, hchange, hadvance⟩ := bind_eq_ok.mp hadvance
    cases hadvance
    rcases calleeChange_eq_ok hchange with ⟨-, rfl⟩ | ⟨g, hg, hresolve, -⟩
    · exact hw
    · exact hwalks (h.next (.call hap hg)) hresolve hw
  · cases hadvance
    exact hw
  · cases hadvance
    exact hw

theorem followBranches_walked (hwalks : Resolver.Walks r depth) (hbody : HasBody r f) {i : Nat}
    {at' : ApState} {after after' : List ApState} {bs : List (Branch × BranchSignature)}
    {w w' : Walk} (h : Occurs r (.follow depth f i at' after bs w))
    (hfollow : followBranches r.program (resolve r depth) f i at' bs w = .ok (after', w'))
    (hw : Walked r w.progress) : Walked r w'.progress := by
  induction bs generalizing after after' w with
  | nil =>
    cases hfollow
    exact hw
  | cons b bs ih =>
    obtain ⟨next, s, w₁, after₁, hadvance, hlt, harrive, hrest, rfl⟩ :=
      followBranches_cons_eq_ok hfollow
    exact ih (h.next (.arrive hadvance hlt harrive)) hrest
      ((advance_walked hwalks h hadvance hw).arrive hbody harrive)

theorem walkAll_walked (hwalks : Resolver.Walks r depth) (hbody : HasBody r f) {fuel : Nat}
    {w w' : Walk} (h : Occurs r (.walk depth f w))
    (hwalk : walkAll r (resolve r depth) f fuel w = .ok w') (hw : Walked r w.progress) :
    Walked r w'.progress := by
  suffices hall : (Occurs r (.walk depth f w') ∧ Walked r w'.progress) ∧ w'.pending = [] from
    hall.1.2
  refine walkAll_induct (P := fun w => Occurs r (.walk depth f w) ∧ Walked r w.progress) hwalk
    ⟨h, hw⟩ fun {w w₁ i rest} hw hpending hvisit => ⟨hw.1.visit hpending hvisit, ?_⟩
  obtain ⟨site, hsite, ⟨_, -, rfl⟩ | ⟨inv, lib, after, w₂, hinvoke, hlib, hfollow, rfl⟩⟩ :=
    visit_eq_ok hvisit
  · exact hw.2
  · exact (followBranches_walked hwalks hbody
      (hw.1.next (.takeUp hpending hsite hinvoke hlib)) hfollow hw.2).setAfter after

theorem resolve_walks (r : Registry) (depth : Nat) : Resolver.Walks r depth := by
  induction depth with
  | zero =>
    intro f s s' _ h
    cases h
  | succ depth ih =>
    intro f s s' hoccurs h hwalked
    rcases resolve_eq_ok h with
      ⟨function, change, s₁, hunvisited, hfunction, hwalk, rfl⟩ | ⟨-, rfl⟩
    · obtain ⟨Open, hinv⟩ := hoccurs.sound
      have hlt : f < s.functions.length := by
        rw [hinv.length_functions]
        exact (List.getElem?_eq_some_iff.mp hfunction).1
      have hbegin : Walked r (s.setStatus f .visiting) :=
        hwalked.setStatus hlt fun _ hstatus => by cases hstatus
      have hlt' : f < (s.setStatus f .visiting).functions.length := by
        rwa [Progress.length_functions_setStatus]
      rcases walk_eq_ok hwalk with
        ⟨hentry, changed, s₂, w, hmerge, hwalkAll, rfl, rfl⟩ | ⟨hentry, rfl, rfl⟩
      · have hbody : HasBody r f := ⟨function, hfunction, hentry⟩
        have hbegins := hoccurs.next (.enter hunvisited hfunction hentry hmerge)
        refine (walkAll_walked ih hbody hbegins hwalkAll (hbegin.merge hbody hmerge)).setStatus ?_
          fun _ _ _ => ⟨depth, w, hbegins.walkAll hwalkAll⟩
        obtain ⟨-, hw, -⟩ := hinv.enter hunvisited hfunction hentry hmerge
        obtain ⟨hw', -, -⟩ := walkAll_inv (resolve_sound r depth) hw hwalkAll
        exact Progress.lt_of_status_ne (by rw [hw'.visiting]; simp)
      · refine hbegin.setStatus hlt' fun _ _ hbody => ?_
        obtain ⟨function', hfunction', hentry'⟩ := hbody
        obtain rfl : function = function' := Option.some.inj (hfunction.symm.trans hfunction')
        exact absurd hentry' hentry
    · exact hwalked

theorem resolveAll_concat {before : List Nat} {g : Nat} {s₀ s s₁ : Progress}
    (hbefore : resolveAll r before s₀ = .ok s)
    (h : resolve r (r.program.functions.length + 1) g s = .ok s₁) :
    resolveAll r (before ++ [g]) s₀ = .ok s₁ := by
  induction before generalizing s₀ with
  | nil =>
    cases hbefore
    exact bind_eq_ok.mpr ⟨s₁, h, rfl⟩
  | cons f before ih =>
    obtain ⟨s₂, hresolve, hbefore⟩ := bind_eq_ok.mp hbefore
    exact bind_eq_ok.mpr ⟨s₂, hresolve, ih hbefore⟩

/-- The functions that were resolved in order before some others were walked through. -/
theorem resolveAll_walked (before : List Nat) {fs : List Nat} {s s' : Progress}
    (hrange : List.range r.program.functions.length = before ++ fs)
    (hbefore : resolveAll r before (.start r.program) = .ok s)
    (h : resolveAll r fs s = .ok s') (hs : Walked r s) : Walked r s' := by
  induction fs generalizing before s with
  | nil =>
    cases h
    exact hs
  | cons g fs ih =>
    obtain ⟨s₁, hresolve, h⟩ := bind_eq_ok.mp h
    have hroot : Occurs r (.resolve (r.program.functions.length + 1) g s) := .root hrange hbefore
    exact ih (before ++ [g]) (by rw [hrange, List.append_assoc]; rfl)
      (resolveAll_concat hbefore hresolve) h (resolve_walks r _ hroot hresolve hs)

theorem walked_start (r : Registry) : Walked r (.start r.program) where
  done hdone _ := by
    rw [Progress.Done, Progress.status_start] at hdone
    cases hdone
  site hi := by
    rw [Progress.site?_start] at hi
    cases hi

theorem exists_walkEnds {m : Metadata} (h : analyze r = .ok m) (hbody : HasBody r f) :
    ∃ depth w, WalkEnds r depth f w := by
  obtain ⟨s, hresolve, -⟩ := bind_eq_ok.mp h
  have hf : f < r.program.functions.length := by
    obtain ⟨function, hfunction, -⟩ := hbody
    exact (List.getElem?_eq_some_iff.mp hfunction).1
  obtain ⟨-, -, hall⟩ := resolveAll_inv (inv_start r fun _ => False)
    (status_start_ne_visiting r.program) (fun g hg => List.mem_range.mp hg) hresolve
  obtain ⟨change, hdone⟩ := hall f (List.mem_range.mpr hf)
  exact (resolveAll_walked [] rfl rfl hresolve (walked_start r)).done hdone hbody

theorem hasBody_of_site {m : Metadata} {i : Nat} {site : Site} (h : analyze r = .ok m)
    (hi : m.site? i = some site) : HasBody r site.owner := by
  obtain ⟨s, hresolve, hs⟩ := bind_eq_ok.mp h
  cases hs
  exact (resolveAll_walked [] rfl rfl hresolve (walked_start r)).site hi

/-! ### Paths at different positions -/

/-- The analysis stops while it walks through `f`: in what is known then, `s`, a path arrives at
statement `n`, at another position than the one recorded there, and both are tracked. -/
def MismatchAt (r : Registry) (depth f n : Nat) (s : Progress) : Prop :=
  ∃ i at' after branch sig bs w next,
    Occurs r (.follow depth f i at' after ((branch, sig) :: bs) w) ∧
    (branch.target.resolve i).toNat = n ∧
    advance r.program (resolve r depth) i at' sig.ap w.progress = .ok (next, s) ∧
    merge r.program f n next s = .error (.mismatch n)

/-- Paths are at different positions where both the recorded position and the one that arrives are
tracked. -/
theorem merge_eq_mismatch {p : Program} {i n : Nat} {at' : ApState} {s : Progress}
    (h : merge p f i at' s = .error (.mismatch n)) :
    n = i ∧ ∃ site, s.site? i = some site ∧ site.owner = f ∧ site.state ≠ at' ∧
      site.state.tracking = true ∧ at'.tracking = true := by
  unfold merge at h
  split at h
  · cases h
  · rename_i site hsite
    split at h
    · cases h
    · rename_i howner
      split at h
      · cases h
      · rename_i hne
        split at h
        · rename_i htracking
          cases h
          rw [Bool.and_eq_true] at htracking
          exact ⟨rfl, site, hsite, by simpa using howner, hne, htracking⟩
        · dsimp only at h
          split at h <;> cases h

/-- A resolver that finds paths at different positions stops where one of them arrives. -/
def Resolver.StopsAt (r : Registry) (n depth : Nat) : Prop :=
  ∀ ⦃g : Nat⦄ ⦃s : Progress⦄, Occurs r (.resolve depth g s) →
    resolve r depth g s = .error (.mismatch n) → ∃ depth f s, MismatchAt r depth f n s

theorem followBranches_mismatch {n : Nat} (hstops : Resolver.StopsAt r n depth) {i : Nat}
    {at' : ApState} {after : List ApState} {bs : List (Branch × BranchSignature)} {w : Walk}
    (h : Occurs r (.follow depth f i at' after bs w))
    (hfollow : followBranches r.program (resolve r depth) f i at' bs w = .error (.mismatch n)) :
    ∃ depth f s, MismatchAt r depth f n s := by
  induction bs generalizing after w with
  | nil => cases hfollow
  | cons b bs ih =>
    obtain ⟨branch, sig⟩ := b
    simp only [followBranches] at hfollow
    rcases bind_eq_error.mp hfollow with hadvance | ⟨⟨next, s⟩, hadvance, hfollow⟩
    · unfold advance at hadvance
      split at hadvance
      · cases hadvance
      · rename_i callee hap
        rcases bind_eq_error.mp hadvance with hchange | ⟨_, -, hadvance⟩
        · unfold calleeChange at hchange
          split at hchange
          · cases hchange
          · rename_i g hg
            rcases bind_eq_error.mp hchange with hresolve | ⟨_, -, hchange⟩
            · exact hstops (h.next (.call hap hg)) hresolve
            · split at hchange <;> cases hchange
        · cases hadvance
      · cases hadvance
      · cases hadvance
    · dsimp only at hfollow
      split at hfollow
      · rename_i hlt
        rcases bind_eq_error.mp hfollow with harrive | ⟨w₁, harrive, hfollow⟩
        · rcases bind_eq_error.mp harrive with hmerge | ⟨_, -, harrive⟩
          · obtain ⟨rfl, -⟩ := merge_eq_mismatch hmerge
            exact ⟨depth, f, s, i, at', after, branch, sig, bs, w, next, h, rfl, hadvance, hmerge⟩
          · cases harrive
        · rcases bind_eq_error.mp hfollow with hrest | ⟨_, -, hfollow⟩
          · exact ih (h.next (.arrive hadvance hlt harrive)) hrest
          · cases hfollow
      · cases hfollow

theorem walkAll_mismatch {n : Nat} (hstops : Resolver.StopsAt r n depth) {fuel : Nat} {w : Walk}
    (h : Occurs r (.walk depth f w))
    (hwalk : walkAll r (resolve r depth) f fuel w = .error (.mismatch n)) :
    ∃ depth f s, MismatchAt r depth f n s := by
  induction fuel generalizing w with
  | zero =>
    unfold walkAll at hwalk
    split at hwalk <;> cases hwalk
  | succ fuel ih =>
    unfold walkAll at hwalk
    split at hwalk
    · cases hwalk
    · rename_i i rest hpending
      rw [note_bind] at hwalk
      rcases bind_eq_error.mp hwalk with hvisit | ⟨w₁, hvisit, hwalk⟩
      · unfold visit at hvisit
        split at hvisit
        · cases hvisit
        · rename_i inv site hinvoke hsite
          split at hvisit
          · cases hvisit
          · rename_i lib hlib
            rcases bind_eq_error.mp hvisit with hfollow | ⟨_, -, hvisit⟩
            · exact followBranches_mismatch hstops
                (h.next (.takeUp hpending hsite hinvoke hlib)) hfollow
            · cases hvisit
        · cases hvisit
      · exact ih (h.visit hpending hvisit) hwalk

theorem resolve_stopsAt (r : Registry) (n depth : Nat) : Resolver.StopsAt r n depth := by
  induction depth with
  | zero =>
    intro f s _ h
    cases h
  | succ depth ih =>
    intro f s hoccurs h
    unfold resolve resolveWithin at h
    split at h
    · rename_i function hunvisited hfunction
      rcases bind_eq_error.mp h with hwalk | ⟨_, -, h⟩
      · unfold walkWithin at hwalk
        rw [note_bind] at hwalk
        split at hwalk
        · rename_i hentry
          rcases bind_eq_error.mp hwalk with hmerge | ⟨⟨changed, s₁⟩, hmerge, hwalk⟩
          · obtain ⟨Open, hinv⟩ := hoccurs.sound
            obtain ⟨-, site, hsite, howner, -⟩ := merge_eq_mismatch hmerge
            rw [Progress.site?_setStatus] at hsite
            exact absurd (howner ▸ hunvisited) (hinv.started _ site hsite)
          · rcases bind_eq_error.mp hwalk with hwalkAll | ⟨_, -, hwalk⟩
            · exact walkAll_mismatch ih (hoccurs.next (.enter hunvisited hfunction hentry hmerge))
                hwalkAll
            · cases hwalk
        · cases hwalk
      · cases h
    · cases h

theorem resolveAll_mismatch {n : Nat} (before : List Nat) {fs : List Nat} {s : Progress}
    (hrange : List.range r.program.functions.length = before ++ fs)
    (hbefore : resolveAll r before (.start r.program) = .ok s)
    (h : resolveAll r fs s = .error (.mismatch n)) : ∃ depth f s, MismatchAt r depth f n s := by
  induction fs generalizing before s with
  | nil => cases h
  | cons g fs ih =>
    rcases bind_eq_error.mp h with hresolve | ⟨s₁, hresolve, h⟩
    · exact resolve_stopsAt r n _ (.root hrange hbefore) hresolve
    · exact ih (before ++ [g]) (by rw [hrange, List.append_assoc]; rfl)
        (resolveAll_concat hbefore hresolve) h

/-- An analysis that finds paths at different positions stops where one of them arrives. -/
theorem exists_mismatchAt {n : Nat} (h : analyze r = .error (.mismatch n)) :
    ∃ depth f s, MismatchAt r depth f n s := by
  rcases bind_eq_error.mp h with h | ⟨_, -, h⟩
  · exact resolveAll_mismatch [] rfl rfl h
  · cases h

end course

end SierraCasm.Ap
