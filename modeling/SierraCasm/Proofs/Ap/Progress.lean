import SierraCasm.Ap.Analysis

/-! # Steps of the analysis

What the single operations of the analysis do to what is known: reading back a recorded site or
status, the three outcomes of a merge (`merge_cases`), and the outcomes of the other operations
with the computations inside them taken apart. -/

namespace SierraCasm

namespace ApState

/-- The position at statement `i` after paths with different positions have met there. -/
def atJoin (i : Nat) : ApState := { epoch := epochAtJoin i }

theorem join_eq_atJoin {i : Nat} {s t : ApState} (h : ¬ (s.tracking && t.tracking) = true) :
    join i s t = atJoin i := by
  have htracking : (s.tracking && t.tracking) = false := by simpa using h
  simp [join, atJoin, htracking]

end ApState

namespace Ap

open Sierra Concrete

namespace Progress

variable {s : Progress} {i j f g : Nat} {site : Site} {status : Status}

/-! ### Sites -/

theorem lt_of_site? (h : s.site? i = some site) : i < s.sites.length := by
  simp only [site?, Option.join_eq_some_iff] at h
  exact (List.getElem?_eq_some_iff.mp h).1

theorem site?_setSite_self (h : i < s.sites.length) (site : Site) :
    (s.setSite i site).site? i = some site := by
  simp [site?, setSite, List.getElem?_set_self h]

theorem site?_setSite_of_ne (h : j ≠ i) (site : Site) :
    (s.setSite i site).site? j = s.site? j := by
  simp only [site?, setSite, List.getElem?_set_ne h.symm]

theorem setAfter_eq (h : s.site? i = some site) (after : List ApState) :
    s.setAfter i after = s.setSite i { site with after := after } := by
  simp only [setAfter, h]

theorem site?_start (p : Sierra.Program) (i : Nat) : (start p).site? i = none := by
  simp only [start, site?, List.getElem?_map]
  cases p.statements[i]? <;> rfl

@[simp] theorem site?_setStatus : (s.setStatus f status).site? i = s.site? i := rfl

@[simp] theorem length_sites_setSite : (s.setSite i site).sites.length = s.sites.length := by
  simp [setSite]

@[simp] theorem length_functions_setStatus :
    (s.setStatus f status).functions.length = s.functions.length := by
  simp [setStatus]

/-! ### Statuses -/

theorem status_start (p : Sierra.Program) (f : Nat) : (start p).status f = .unvisited := by
  simp only [start, Progress.status, List.getElem?_map]
  cases p.functions[f]? <;> rfl

@[simp] theorem status_setSite : (s.setSite i site).status g = s.status g := rfl

theorem status_setStatus_self (h : f < s.functions.length) (status : Status) :
    (s.setStatus f status).status f = status := by
  simp [Progress.status, setStatus, List.getElem?_set_self h]

theorem status_setStatus_of_ne (h : g ≠ f) (status : Status) :
    (s.setStatus f status).status g = s.status g := by
  simp only [Progress.status, setStatus, List.getElem?_set_ne h.symm]

theorem lt_of_status_ne (h : s.status f ≠ .unvisited) : f < s.functions.length := by
  apply Nat.lt_of_not_le
  intro hge
  rw [Progress.status, List.getElem?_eq_none hge] at h
  exact h rfl

end Progress

/-! ### Outcomes -/

section outcomes

variable {p : Program} {r : Registry} {resolve : Resolver} {f i : Nat} {s next : ApState}
  {progress progress' : Progress} {w w' : Walk}

/-- A merge records a first position, changes nothing, or replaces the position by that of a
join. -/
theorem merge_cases {changed : Bool} (h : merge p f i s progress = .ok (changed, progress')) :
    (progress.site? i = none ∧ changed = true ∧
      progress' = progress.setSite i { state := s, owner := f }) ∨
    (∃ site, progress.site? i = some site ∧ site.owner = f ∧
      (site.state = s ∨ site.state = .atJoin i) ∧ changed = false ∧ progress' = progress) ∨
    (∃ site, progress.site? i = some site ∧ site.owner = f ∧ changed = true ∧
      progress' = progress.setSite i { site with state := .atJoin i }) := by
  unfold merge at h
  cases hsite : progress.site? i with
  | none =>
    simp only [hsite] at h
    cases h
    exact .inl ⟨rfl, rfl, rfl⟩
  | some site =>
    simp only [hsite] at h
    split at h
    · cases h
    · rename_i howner
      have howner : site.owner = f := by simpa using howner
      split at h
      · rename_i hsame
        cases h
        exact .inr (.inl ⟨site, rfl, howner, .inl hsame, rfl, rfl⟩)
      · split at h
        · cases h
        · rename_i htracking
          simp only [ApState.join_eq_atJoin htracking] at h
          split at h
          · rename_i hjoined
            cases h
            exact .inr (.inl ⟨site, rfl, howner, .inr hjoined.symm, rfl, rfl⟩)
          · cases h
            exact .inr (.inr ⟨site, rfl, howner, rfl, rfl⟩)

theorem arrive_eq_ok (h : Walk.arrive p f i s w = .ok w') :
    ∃ changed progress', merge p f i s w.progress = .ok (changed, progress') ∧
      w' = { w with
        pending := if changed then Ascending.insert i w.pending else w.pending
        progress := progress' } := by
  obtain ⟨⟨changed, progress'⟩, hmerge, hw⟩ := bind_eq_ok.mp h
  cases hw
  exact ⟨changed, progress', hmerge, rfl⟩

theorem calleeChange_eq_ok {callee : Ident} {change : ApChange}
    (h : calleeChange p resolve callee progress = .ok (change, progress')) :
    (change = .unknown ∧ progress' = progress) ∨
    ∃ g, p.functionIndex? callee = some g ∧ resolve g progress = .ok progress' ∧
      (change = .unknown ∨ progress'.status g = .done change) := by
  unfold calleeChange at h
  cases hg : p.functionIndex? callee with
  | none =>
    simp only [hg] at h
    cases h
    exact .inl ⟨rfl, rfl⟩
  | some g =>
    simp only [hg] at h
    obtain ⟨resolved, hresolve, hstatus⟩ := bind_eq_ok.mp h
    cases hs : resolved.status g with
    | done c =>
      simp only [hs] at hstatus
      cases hstatus
      exact .inr ⟨g, rfl, hresolve, .inr hs⟩
    | unvisited =>
      simp only [hs] at hstatus
      cases hstatus
      exact .inr ⟨g, rfl, hresolve, .inl rfl⟩
    | visiting =>
      simp only [hs] at hstatus
      cases hstatus
      exact .inr ⟨g, rfl, hresolve, .inl rfl⟩

theorem followBranches_cons_eq_ok {branch : Branch} {sig : BranchSignature}
    {rest : List (Branch × BranchSignature)} {after : List ApState}
    (h : followBranches p resolve f i s ((branch, sig) :: rest) w = .ok (after, w')) :
    ∃ next progress w₁ after',
      advance p resolve i s sig.ap w.progress = .ok (next, progress) ∧
      (branch.target.resolve i).toNat < p.statements.length ∧
      Walk.arrive p f (branch.target.resolve i).toNat next { w with progress := progress } =
        .ok w₁ ∧
      followBranches p resolve f i s rest w₁ = .ok (after', w') ∧ after = next :: after' := by
  simp only [followBranches] at h
  obtain ⟨⟨next, progress⟩, hadvance, h⟩ := bind_eq_ok.mp h
  split at h
  · rename_i htarget
    obtain ⟨w₁, harrive, h⟩ := bind_eq_ok.mp h
    obtain ⟨⟨after', w₂⟩, hrest, h⟩ := bind_eq_ok.mp h
    cases h
    exact ⟨next, progress, w₁, after', hadvance, htarget, harrive, hrest, rfl⟩
  · cases h

theorem visit_eq_ok (h : visit r resolve f i w = .ok w') :
    ∃ site, w.progress.site? i = some site ∧
      ((∃ vars, r.program.statements[i]? = some (.ret vars) ∧
        w' = { w with returns := w.returns ++ [i] }) ∨
      ∃ inv lib after w₁, r.program.statements[i]? = some (.invoke inv) ∧
        r.libfunc? inv.libfunc = some lib ∧
        followBranches r.program resolve f i site.state
          (inv.branches.zip lib.signature.branches) w = .ok (after, w₁) ∧
        w' = { w₁ with progress := w₁.progress.setAfter i after }) := by
  unfold visit at h
  split at h
  · rename_i vars site hstatement hsite
    cases h
    exact ⟨site, hsite, .inl ⟨vars, hstatement, rfl⟩⟩
  · rename_i inv site hstatement hsite
    split at h
    · cases h
    · rename_i lib hlib
      obtain ⟨⟨after, w₁⟩, hfollow, h⟩ := bind_eq_ok.mp h
      cases h
      exact ⟨site, hsite, .inr ⟨inv, lib, after, w₁, hstatement, hlib, hfollow, rfl⟩⟩
  · cases h

/-- A walk reaches the entry and visits statements until none is pending; there is nothing to walk
through where a function has no body. -/
theorem walk_eq_ok {entry : Nat} {change : ApChange}
    (h : walk r resolve f entry progress = .ok (change, progress')) :
    (entry < r.program.statements.length ∧ ∃ changed reached w,
      merge r.program f entry .entry progress = .ok (changed, reached) ∧
      walkAll r resolve f (visitBound r.program) { pending := [entry], progress := reached } =
        .ok w ∧
      change = changeOfReturns (w.returns.filterMap fun i => (w.progress.site? i).map (·.state)) ∧
      progress' = w.progress) ∨
    (¬ entry < r.program.statements.length ∧ change = .unknown ∧ progress' = progress) := by
  unfold walk walkWithin at h
  rw [note_bind] at h
  split at h
  · rename_i hentry
    obtain ⟨⟨changed, reached⟩, hmerge, h⟩ := bind_eq_ok.mp h
    obtain ⟨w, hwalk, h⟩ := bind_eq_ok.mp h
    cases h
    exact .inl ⟨hentry, changed, reached, w, hmerge, hwalk, rfl, rfl⟩
  · rename_i hentry
    cases h
    exact .inr ⟨hentry, rfl, rfl⟩

theorem resolve_eq_ok {depth : Nat} (h : Ap.resolve r (depth + 1) f progress = .ok progress') :
    (∃ function change walked, progress.status f = .unvisited ∧
      r.program.functions[f]? = some function ∧
      walk r (Ap.resolve r depth) f function.entry.toNat (progress.setStatus f .visiting) =
        .ok (change, walked) ∧
      progress' = walked.setStatus f (.done change)) ∨
    ((progress.status f = .unvisited → r.program.functions[f]? = none) ∧
      progress' = progress) := by
  unfold Ap.resolve resolveWithin at h
  split at h
  · rename_i function hunvisited hfunction
    obtain ⟨⟨change, walked⟩, hwalk, h⟩ := bind_eq_ok.mp h
    cases h
    exact .inl ⟨function, change, walked, hunvisited, hfunction, hwalk, rfl⟩
  · rename_i hother
    cases h
    refine .inr ⟨fun hunvisited => ?_, rfl⟩
    cases hfunction : r.program.functions[f]? with
    | none => rfl
    | some function => exact (hother function hunvisited hfunction).elim

/-- What holds at the start of a walk and is kept by visits holds at its end, when nothing is
pending. -/
theorem walkAll_induct {P : Walk → Prop} {fuel : Nat} (h : walkAll r resolve f fuel w = .ok w')
    (hw : P w) (hvisit : ∀ {w w₁ : Walk} {i : Nat} {rest : List Nat}, P w → w.pending = i :: rest →
      visit r resolve f i { w with pending := rest } = .ok w₁ → P w₁) :
    P w' ∧ w'.pending = [] := by
  induction fuel generalizing w with
  | zero =>
    unfold walkAll at h
    split at h
    · rename_i hnil
      cases h
      exact ⟨hw, hnil⟩
    · cases h
  | succ fuel ih =>
    unfold walkAll at h
    split at h
    · rename_i hnil
      cases h
      exact ⟨hw, hnil⟩
    · rename_i i rest hpending
      rw [note_bind] at h
      obtain ⟨w₁, hw₁, h⟩ := bind_eq_ok.mp h
      exact ih h (hvisit hw hpending hw₁)

end outcomes

end Ap

end SierraCasm
