import Mathlib.Data.List.Forall2
import SierraCasm.Proofs.Ap.Progress

/-! # The invariant of the analysis

Statements are visited while positions still change, and a call resolves its callee in the middle
of a walk.  So the invariant (`Inv`) is relative to a set of open statements: those that are still
pending in some walk.  Every other reached statement is settled: the position after each of its
branches is the effect of the branch, and the target is recorded at that position or at the
position of a join.  A walk changes the sites of its own function only (`Extends`), and everything
that is settled elsewhere stays so (`Settled.mono`).  Functions are ranked by the order in which
they are resolved: a call that uses the change of its callee is made by a function of a higher rank
(`Ranked`). -/

namespace SierraCasm.Ap

open Sierra Concrete

/-! ### Settled statements -/

/-- The positions that a branch of statement `i` can lead to from `s`; `Done g c` says that
function `g` is known to have change `c`. -/
inductive Effect (p : Program) (Done : Nat → ApChange → Prop) (i : Nat) (s : ApState) :
    ApEffect → ApState → Prop
  | known (cells : Int64) : Effect p Done i s (.known cells) (s.move cells)
  | freshCall (callee : Ident) : Effect p Done i s (.call callee) (s.afterCall i .unknown)
  | doneCall {callee : Ident} {g : Nat} {change : ApChange} :
      p.functionIndex? callee = some g → Done g change →
      Effect p Done i s (.call callee) (s.afterCall i change)
  | enable : Effect p Done i s .enableTracking { epoch := ApState.epochAfter i, tracking := true }
  | disable : Effect p Done i s .disableTracking { s with tracking := false }

theorem Effect.mono {p : Program} {Done Done' : Nat → ApChange → Prop} {i : Nat} {s t : ApState}
    {e : ApEffect} (hdone : ∀ g c, Done g c → Done' g c) (h : Effect p Done i s e t) :
    Effect p Done' i s e t := by
  cases h with
  | known cells => exact .known cells
  | freshCall callee => exact .freshCall callee
  | doneCall hg hchange => exact .doneCall hg (hdone _ _ hchange)
  | enable => exact .enable
  | disable => exact .disable

/-- A branch stays in its epoch or opens that of its statement. -/
theorem Effect.epoch {p : Program} {Done : Nat → ApChange → Prop} {i : Nat} {s t : ApState}
    {e : ApEffect} (h : Effect p Done i s e t) :
    t.epoch = s.epoch ∨ t.epoch = ApState.epochAfter i := by
  cases h with
  | known | disable => exact .inl rfl
  | freshCall | enable => exact .inr rfl
  | @doneCall _ _ change =>
    cases change with
    | known n => exact .inl rfl
    | unknown => exact .inr rfl

/-- The functions that are resolved, with their changes. -/
def Progress.Done (s : Progress) (g : Nat) (change : ApChange) : Prop := s.status g = .done change

/-- A branch of statement `i` in function `f` has the effect `next`, and its target is recorded
accordingly. -/
def Leads (p : Program) (s : Progress) (f i : Nat) (at' : ApState)
    (b : Branch × BranchSignature) (next : ApState) : Prop :=
  Effect p s.Done i at' b.2.ap next ∧
    ∃ site, s.site? (b.1.target.resolve i).toNat = some site ∧ site.owner = f ∧
      (site.state = next ∨ site.state = .atJoin (b.1.target.resolve i).toNat)

/-- What is recorded about a statement fits what is recorded about the targets of its branches. -/
def Settled (r : Registry) (s : Progress) (i : Nat) (site : Site) : Prop :=
  (∃ vars, r.program.statements[i]? = some (.ret vars)) ∨
  ∃ inv lib, r.program.statements[i]? = some (.invoke inv) ∧
    r.libfunc? inv.libfunc = some lib ∧
    List.Forall₂ (Leads r.program s site.owner i site.state)
      (inv.branches.zip lib.signature.branches) site.after

/-- The entry of a function with a body is reached by it. -/
def EntryReached (r : Registry) (s : Progress) (f : Nat) : Prop :=
  ∀ function, r.program.functions[f]? = some function →
    function.entry.toNat < r.program.statements.length →
    ∃ site, s.site? function.entry.toNat = some site ∧ site.owner = f ∧
      (site.state = .entry ∨ site.state = .atJoin function.entry.toNat)

/-- Statement `i` is a return that function `f` reaches. -/
def IsReturnOf (r : Registry) (s : Progress) (f i : Nat) : Prop :=
  (∃ vars, r.program.statements[i]? = some (.ret vars)) ∧
    ∃ site, s.site? i = some site ∧ site.owner = f

/-- The positions recorded at some statements. -/
def statesAt (s : Progress) (is : List Nat) : List ApState :=
  is.filterMap fun i => (s.site? i).map (·.state)

/-- The change of a function is the one that its returns give, in some order. -/
def ReturnsGive (r : Registry) (s : Progress) (f : Nat) (change : ApChange) : Prop :=
  ∃ is, (∀ i, i ∈ is ↔ IsReturnOf r s f i) ∧ change = changeOfReturns (statesAt s is)

/-- The positions after the branches of a statement, given the changes of the functions that it may
call. -/
def Follows (r : Registry) (Done : Nat → ApChange → Prop) (i : Nat) (site : Site) : Prop :=
  ∀ inv lib, r.program.statements[i]? = some (.invoke inv) → r.libfunc? inv.libfunc = some lib →
    List.Forall₂ (fun b next => Effect r.program Done i site.state b.2.ap next)
      (inv.branches.zip lib.signature.branches) site.after

/-- The functions that are resolved have ranks below a bound, and the positions in a function follow
from changes of functions of lower rank. -/
structure Ranked (r : Registry) (s : Progress) (rank : Nat → Nat) (bound : Nat) : Prop where
  lt_bound : ∀ g c, s.Done g c → rank g < bound
  follows : ∀ i site c, s.site? i = some site → s.Done site.owner c →
    Follows r (fun g c => s.Done g c ∧ rank g < rank site.owner) i site

/-- The invariant of the analysis, relative to the statements that are still open. -/
structure Inv (r : Registry) (Open : Nat → Prop) (s : Progress) : Prop where
  length_sites : s.sites.length = r.program.statements.length
  length_functions : s.functions.length = r.program.functions.length
  settled : ∀ i site, s.site? i = some site → Open i ∨ Settled r s i site
  started : ∀ i site, s.site? i = some site → s.status site.owner ≠ .unvisited
  resolved : ∀ f change, s.status f = .done change →
    EntryReached r s f ∧ ReturnsGive r s f change
  ranked : ∃ rank bound, Ranked r s rank bound

/-! ### What a walk may change -/

/-- From `s` to `s'` only sites of function `f` change, and those only to the position of a
join; other new sites belong to functions that were not visited yet, and no other function is left
in the middle of its walk. -/
structure Extends (f : Nat) (s s' : Progress) : Prop where
  site : ∀ i site, s.site? i = some site → site.owner ≠ f → s'.site? i = some site
  own : ∀ i site, s.site? i = some site → site.owner = f →
    ∃ site', s'.site? i = some site' ∧ site'.owner = f ∧
      (site'.state = site.state ∨ site'.state = .atJoin i)
  fresh : ∀ i site, s.site? i = none → s'.site? i = some site →
    site.owner = f ∨ s.status site.owner = .unvisited
  status : ∀ g, s.status g ≠ .unvisited → s'.status g = s.status g
  quiet : ∀ g, g ≠ f → s'.status g = .visiting → s.status g = .visiting

namespace Extends

variable {f : Nat} {s s' s'' : Progress}

theorem refl (f : Nat) (s : Progress) : Extends f s s where
  site _ _ h _ := h
  own _ site h hf := ⟨site, h, hf, .inl rfl⟩
  fresh _ _ h h' := by rw [h] at h'; cases h'
  status _ _ := rfl
  quiet _ _ h := h

theorem trans (h : Extends f s s') (h' : Extends f s' s'') : Extends f s s'' where
  site i site hi hf := h'.site i site (h.site i site hi hf) hf
  own i site hi hf := by
    obtain ⟨site', hi', hf', hstate⟩ := h.own i site hi hf
    obtain ⟨site'', hi'', hf'', hstate'⟩ := h'.own i site' hi' hf'
    refine ⟨site'', hi'', hf'', ?_⟩
    rcases hstate' with heq | hjoin
    · rw [heq]
      exact hstate
    · exact .inr hjoin
  fresh i site hi hi'' := by
    cases hmid : s'.site? i with
    | none =>
      refine (h'.fresh i site hmid hi'').imp_right fun hunvisited => ?_
      apply Classical.byContradiction
      intro hvisited
      rw [h.status _ hvisited] at hunvisited
      exact hvisited hunvisited
    | some site' =>
      by_cases hf : site'.owner = f
      · obtain ⟨_, hown, hf'', -⟩ := h'.own i site' hmid hf
        rw [hown] at hi''
        cases hi''
        exact .inl hf''
      · rw [h'.site i site' hmid hf] at hi''
        cases hi''
        exact h.fresh i site hi hmid
  status g hg := by
    have hstatus := h.status g hg
    rw [h'.status g (by rw [hstatus]; exact hg), hstatus]
  quiet g hgf hg := h.quiet g hgf (h'.quiet g hgf hg)

theorem done (h : Extends f s s') {g : Nat} {change : ApChange} (hg : s.Done g change) :
    s'.Done g change := by
  unfold Progress.Done at hg ⊢
  rw [h.status g (by rw [hg]; simp), hg]

/-- What is recorded about a function that is being or was visited does not change. -/
theorem site_iff (h : Extends f s s') {g i : Nat} (hg : s.status g ≠ .unvisited) (hgf : g ≠ f)
    {site : Site} (howner : site.owner = g) : s'.site? i = some site ↔ s.site? i = some site := by
  subst howner
  constructor
  · intro hi'
    cases hi : s.site? i with
    | none =>
      rcases h.fresh i site hi hi' with hf | hunvisited
      · exact absurd hf hgf
      · exact absurd hunvisited hg
    | some site₀ =>
      by_cases hf : site₀.owner = f
      · obtain ⟨site₁, hi₁, hf₁, -⟩ := h.own i site₀ hi hf
        rw [hi'] at hi₁
        cases hi₁
        exact absurd hf₁ hgf
      · rw [h.site i site₀ hi hf] at hi'
        exact hi'
  · intro hi
    exact h.site i site hi hgf

end Extends

theorem Leads.mono {p : Program} {f g i : Nat} {s s' : Progress} {at' next : ApState}
    {b : Branch × BranchSignature} (h : Extends f s s') (hleads : Leads p s g i at' b next) :
    Leads p s' g i at' b next := by
  obtain ⟨heffect, site, hsite, howner, hstate⟩ := hleads
  refine ⟨heffect.mono fun g c => h.done, ?_⟩
  by_cases hg : g = f
  · obtain ⟨site', hsite', howner', hstate'⟩ := h.own _ site hsite (howner.trans hg)
    refine ⟨site', hsite', howner'.trans hg.symm, ?_⟩
    rcases hstate' with heq | hjoin
    · rw [heq]
      exact hstate
    · exact .inr hjoin
  · exact ⟨site, h.site _ site hsite (by rw [howner]; exact hg), howner, hstate⟩

theorem Settled.mono {r : Registry} {f i : Nat} {s s' : Progress} {site : Site}
    (h : Extends f s s') (hsettled : Settled r s i site) : Settled r s' i site := by
  refine hsettled.imp_right ?_
  rintro ⟨inv, lib, hstatement, hlib, hleads⟩
  exact ⟨inv, lib, hstatement, hlib, hleads.imp fun _ _ => Leads.mono h⟩

section resolved

variable {r : Registry} {f g : Nat} {s s' : Progress} {change : ApChange}

theorem EntryReached.mono (h : Extends f s s') (hgf : g ≠ f) (hentry : EntryReached r s g) :
    EntryReached r s' g := by
  intro function hfunction hlt
  obtain ⟨site, hsite, howner, hstate⟩ := hentry function hfunction hlt
  exact ⟨site, h.site _ site hsite (by rw [howner]; exact hgf), howner, hstate⟩

theorem IsReturnOf.congr (h : Extends f s s') (hg : s.status g ≠ .unvisited) (hgf : g ≠ f)
    (i : Nat) : IsReturnOf r s' g i ↔ IsReturnOf r s g i := by
  refine and_congr_right fun _ => exists_congr fun site => and_congr_left fun howner => ?_
  exact h.site_iff hg hgf howner

theorem statesAt_congr {is : List Nat} (h : ∀ i ∈ is, s'.site? i = s.site? i) :
    statesAt s' is = statesAt s is := by
  refine List.filterMap_congr fun i hi => ?_
  rw [h i hi]

theorem ReturnsGive.mono (h : Extends f s s') (hg : s.status g ≠ .unvisited) (hgf : g ≠ f)
    (hgive : ReturnsGive r s g change) : ReturnsGive r s' g change := by
  obtain ⟨is, his, hchange⟩ := hgive
  refine ⟨is, fun i => (his i).trans (IsReturnOf.congr h hg hgf i).symm, ?_⟩
  rw [hchange, statesAt_congr]
  intro i hi
  obtain ⟨-, site, hsite, howner⟩ := (his i).mp hi
  rw [hsite, h.site i site hsite (by rw [howner]; exact hgf)]

end resolved

/-! ### The order of resolution -/

section ranked

variable {r : Registry} {s s' : Progress} {rank : Nat → Nat} {bound f i : Nat}

theorem Follows.mono {Done Done' : Nat → ApChange → Prop} {site : Site}
    (hdone : ∀ g c, Done g c → Done' g c) (h : Follows r Done i site) : Follows r Done' i site :=
  fun inv lib hstatement hlib => (h inv lib hstatement hlib).imp fun _ _ => Effect.mono hdone

/-- What is settled follows from the changes that are known. -/
theorem Settled.follows {site : Site} (h : Settled r s i site) : Follows r s.Done i site := by
  intro inv lib hstatement hlib
  rcases h with ⟨vars, hret⟩ | ⟨inv', lib', hstatement', hlib', hleads⟩
  · rw [hstatement] at hret
    cases hret
  · obtain rfl : inv = inv' := by simpa [hstatement] using hstatement'
    obtain rfl : lib = lib' := by simpa [hlib] using hlib'
    exact hleads.imp fun _ _ hb => hb.1

theorem Ranked.mono (h : Ranked r s rank bound) (hext : Extends f s s') (hf : ∀ c, ¬ s.Done f c)
    (hdone : ∀ g c, s'.Done g c → s.Done g c) : Ranked r s' rank bound where
  lt_bound g c hg := h.lt_bound g c (hdone g c hg)
  follows i site c hi hc := by
    have howner := hdone _ c hc
    have hvisited : s.status site.owner ≠ .unvisited := by
      rw [howner]
      simp
    have hne : site.owner ≠ f := by
      rintro rfl
      exact hf c howner
    have hold := (hext.site_iff hvisited hne rfl).mp hi
    exact (h.follows i site c hold howner).mono fun g c hg => ⟨hext.done hg.1, hg.2⟩

/-- A function that is resolved comes after all that were resolved before. -/
theorem Ranked.finish (h : Ranked r s rank bound) {change : ApChange}
    (hlt : f < s.functions.length) (hf : ∀ c, ¬ s.Done f c)
    (hsettled : ∀ i site, s.site? i = some site → site.owner = f → Settled r s i site) :
    Ranked r (s.setStatus f (.done change)) (Function.update rank f bound) (bound + 1) := by
  have hself : (s.setStatus f (.done change)).status f = .done change :=
    Progress.status_setStatus_self hlt _
  have hother : ∀ g c, g ≠ f → ((s.setStatus f (.done change)).Done g c ↔ s.Done g c) := by
    intro g c hg
    rw [Progress.Done, Progress.status_setStatus_of_ne hg, Progress.Done]
  have hne : ∀ {g c}, s.Done g c → g ≠ f := by
    rintro g c hg rfl
    exact hf c hg
  refine ⟨fun g c hg => ?_, fun i site c hi hc => ?_⟩
  · by_cases hgf : g = f
    · rw [hgf, Function.update_self]
      exact Nat.lt_succ_self bound
    · rw [Function.update_of_ne hgf]
      exact Nat.lt_succ_of_lt (h.lt_bound g c ((hother g c hgf).mp hg))
  · rw [Progress.site?_setStatus] at hi
    by_cases howner : site.owner = f
    · rw [howner, Function.update_self]
      refine (hsettled i site hi howner).follows.mono fun g c hg => ?_
      rw [Function.update_of_ne (hne hg)]
      exact ⟨(hother g c (hne hg)).mpr hg, h.lt_bound g c hg⟩
    · rw [Function.update_of_ne howner]
      refine (h.follows i site c hi ((hother _ c howner).mp hc)).mono fun g c hg => ?_
      rw [Function.update_of_ne (hne hg.1)]
      exact ⟨(hother g c (hne hg.1)).mpr hg.1, hg.2⟩

end ranked

end SierraCasm.Ap
