import Mathlib.Algebra.Order.BigOperators.Group.Finset
import SierraCasm.Proofs.Ap.Fixpoint

/-! # The analysis ends, and says what is wrong

The analysis of a validated program gives a result or a fault of the program, which names a
statement and functions of it (`analyze_stops`).  The bounds on visits and on the depth of calls are
never used up.

The position at a statement changes at most twice, when it is first reached and when paths join
there; `Progress.room` counts the changes that are left.  A visit takes one statement off the pending
ones, and puts one there for each change, so pending statements and changes left together get fewer
with every visit (`visit_work`).  A call goes one deeper only into a function that was not visited,
and there are fewer of these then (`resolve_stops`). -/

namespace SierraCasm.Ap

open Sierra Concrete

/-! ### Faults -/

/-- A fault that names a statement and functions of the program. -/
inductive Fault.Justified (p : Program) : Fault → Prop
  | shared {i f g : Nat} {first second : Function} : i < p.statements.length →
      p.functions[f]? = some first → p.functions[g]? = some second → f ≠ g →
      Justified p (.shared i first.id second.id)
  | mismatch {i : Nat} : i < p.statements.length → Justified p (.mismatch i)
  /-- only the last statement falls through past the end -/
  | pastEnd {i : Nat} {inv : Invocation} {branch : Branch} :
      p.statements[i]? = some (.invoke inv) → branch ∈ inv.branches →
      branch.target = .fallthrough → i + 1 = p.statements.length → Justified p (.pastEnd i)

theorem functionId_eq {p : Program} {f : Nat} {function : Function}
    (h : p.functions[f]? = some function) : functionId p f = function.id := by
  rw [functionId, h, Option.map_some, Option.getD_some]

/-! ### Changes that are left -/

/-- How often the position at a statement can still change. -/
def Progress.room (s : Progress) (i : Nat) : Nat :=
  match s.site? i with
  | none => 2
  | some site => if site.state = .atJoin i then 0 else 1

/-- The pending statements and the changes left at the first `n` statements together. -/
def Walk.work (n : Nat) (w : Walk) : Nat :=
  w.pending.length + ∑ i ∈ Finset.range n, w.progress.room i

/-- The functions among the first `n` that were not visited yet. -/
def Progress.unvisited (s : Progress) (n : Nat) : Finset Nat :=
  (Finset.range n).filter fun g => s.status g = .unvisited

section measures

variable {f i t n : Nat} {s s' : Progress}

theorem Progress.room_le_two (s : Progress) (i : Nat) : s.room i ≤ 2 := by
  unfold room
  split
  · exact Nat.le_refl 2
  · split <;> omega

theorem Progress.room_of_site {site : Site} (h : s.site? i = some site) :
    s.room i = if site.state = .atJoin i then 0 else 1 := by
  rw [room, h]

theorem Extends.room_le (h : Extends f s s') (i : Nat) : s'.room i ≤ s.room i := by
  cases hi : s.site? i with
  | none =>
    have hroom : s.room i = 2 := by rw [Progress.room, hi]
    rw [hroom]
    exact s'.room_le_two i
  | some site =>
    by_cases hf : site.owner = f
    · obtain ⟨site', hi', -, hstate | hstate⟩ := h.own i site hi hf
      · rw [Progress.room_of_site hi, Progress.room_of_site hi', hstate]
      · rw [Progress.room_of_site hi', if_pos hstate]
        exact Nat.zero_le _
    · rw [Progress.room_of_site hi, Progress.room_of_site (h.site i site hi hf)]

theorem Extends.unvisited_subset (h : Extends f s s') (n : Nat) :
    s'.unvisited n ⊆ s.unvisited n := by
  intro g hg
  rw [Progress.unvisited, Finset.mem_filter] at hg ⊢
  refine ⟨hg.1, Classical.byContradiction fun hvisited => ?_⟩
  rw [h.status g hvisited] at hg
  exact hvisited hg.2

theorem Progress.room_setSite_of_ne {j : Nat} (h : j ≠ i) (site : Site) :
    (s.setSite i site).room j = s.room j := by
  rw [room, site?_setSite_of_ne h, room]

theorem Progress.room_setAfter (s : Progress) (i j : Nat) (after : List ApState) :
    (s.setAfter i after).room j = s.room j := by
  cases hi : s.site? i with
  | none => rw [setAfter, hi]
  | some site =>
    rw [setAfter_eq hi]
    by_cases hj : j = i
    · subst hj
      rw [room_of_site (site?_setSite_self (lt_of_site? hi) _), room_of_site hi]
    · exact room_setSite_of_ne hj _

/-- A position that is recorded where none is, or where paths join first, leaves less room. -/
theorem Progress.room_setSite_lt {site : Site} (hlt : t < s.sites.length)
    (hchange : s.site? t = none ∨ ∃ site₀, s.site? t = some site₀ ∧ site₀.state ≠ .atJoin t ∧
      site.state = .atJoin t) : (s.setSite t site).room t < s.room t := by
  rw [room_of_site (site?_setSite_self hlt site)]
  rcases hchange with hnone | ⟨site₀, hsite₀, hne, hjoin⟩
  · have htwo : s.room t = 2 := by rw [room, hnone]
    rw [htwo]
    split <;> omega
  · rw [room_of_site hsite₀, if_neg hne, if_pos hjoin]
    exact Nat.zero_lt_one

/-- A site that leaves less room makes the changes left fewer. -/
theorem Progress.sum_room_setSite_lt {site : Site} (ht : t < n)
    (hself : (s.setSite t site).room t < s.room t) :
    ∑ i ∈ Finset.range n, (s.setSite t site).room i < ∑ i ∈ Finset.range n, s.room i := by
  refine Finset.sum_lt_sum (fun i _ => ?_) ⟨t, Finset.mem_range.mpr ht, hself⟩
  by_cases hi : i = t
  · rw [hi]
    exact Nat.le_of_lt hself
  · exact Nat.le_of_eq (room_setSite_of_ne hi site)

theorem merge_changed {p : Program} {at' : ApState} {site : Site}
    (h : merge p f t at' s = .ok (true, s')) (hsite : s.site? t = some site) :
    site.state ≠ .atJoin t := by
  unfold merge at h
  simp only [hsite] at h
  split at h
  · cases h
  · split at h
    · cases h
    · split at h
      · cases h
      · rename_i htracking
        rw [ApState.join_eq_atJoin htracking] at h
        split at h
        · cases h
        · rename_i hne
          exact fun heq => hne heq.symm

end measures

theorem length_insert_le (i : Nat) (is : List Nat) :
    (Ascending.insert i is).length ≤ is.length + 1 := by
  induction is with
  | nil => exact Nat.le_refl _
  | cons j is ih =>
    unfold Ascending.insert
    split
    · exact Nat.le_refl _
    · split
      · exact Nat.le_succ _
      · exact Nat.succ_le_succ ih

/-! ### Every visit does work -/

section work

variable {r : Registry} {resolve : Resolver} {Open : Nat → Prop} {f i t : Nat} {s : ApState}
  {w w' : Walk}

/-- An arrival makes a statement pending only if it makes the changes left fewer. -/
theorem arrive_work (hw : WalkInv r Open f w) (ht : t < r.program.statements.length)
    (h : Walk.arrive r.program f t s w = .ok w') :
    w'.work r.program.statements.length ≤ w.work r.program.statements.length := by
  have hlt : t < w.progress.sites.length := by rw [hw.inv.length_sites]; exact ht
  have hinsert := length_insert_le t w.pending
  obtain ⟨changed, progress', hmerge, rfl⟩ := arrive_eq_ok h
  rcases merge_cases hmerge with ⟨hnone, rfl, rfl⟩ | ⟨site, -, -, -, rfl, rfl⟩ |
    ⟨site, hsite, -, rfl, rfl⟩
  · have hroom : (w.progress.setSite t { state := s, owner := f }).room t < w.progress.room t :=
      Progress.room_setSite_lt hlt (.inl hnone)
    have hless := Progress.sum_room_setSite_lt ht hroom
    simp only [Walk.work, if_true]
    omega
  · exact Nat.le_refl _
  · have hroom :
        (w.progress.setSite t { site with state := .atJoin t }).room t < w.progress.room t :=
      Progress.room_setSite_lt hlt (.inr ⟨site, hsite, merge_changed hmerge hsite, rfl⟩)
    have hless := Progress.sum_room_setSite_lt ht hroom
    simp only [Walk.work, if_true]
    omega

theorem followBranches_work (hresolve : resolve.Sound r) {bs : List (Branch × BranchSignature)}
    {after : List ApState} (hw : WalkInv r Open f w)
    (h : followBranches r.program resolve f i s bs w = .ok (after, w')) :
    w'.work r.program.statements.length ≤ w.work r.program.statements.length := by
  induction bs generalizing w after with
  | nil =>
    cases h
    exact Nat.le_refl _
  | cons b rest ih =>
    obtain ⟨next, progress, w₁, after', hadvance, ht, harrive, hrest, rfl⟩ :=
      followBranches_cons_eq_ok h
    obtain ⟨hinv, hpreserves, -⟩ := advance_sound hresolve hadvance hw.inv
    have hw₀ := hw.preserves hinv hpreserves
    obtain ⟨hw₁, -, -⟩ := arrive_inv hw₀ ht harrive
    have hless : ({ w with progress := progress } : Walk).work r.program.statements.length ≤
        w.work r.program.statements.length :=
      Nat.add_le_add_left (Finset.sum_le_sum fun j _ => (hpreserves.extends f).room_le j) _
    exact ((ih hw₁ hrest).trans (arrive_work hw₀ ht harrive)).trans hless

theorem visit_work (hresolve : resolve.Sound r) {rest : List Nat} (hw : WalkInv r Open f w)
    (hpending : w.pending = i :: rest)
    (h : visit r resolve f i { w with pending := rest } = .ok w') :
    w'.work r.program.statements.length < w.work r.program.statements.length := by
  have hless : ({ w with pending := rest } : Walk).work r.program.statements.length + 1 =
      w.work r.program.statements.length := by
    simp only [Walk.work, hpending, List.length_cons]
    omega
  obtain ⟨site, -, ⟨vars, -, rfl⟩ | ⟨inv, lib, after, w₁, hinvoke, -, hfollow, rfl⟩⟩ :=
    visit_eq_ok h
  · simp only [Walk.work] at hless ⊢
    omega
  · have hwork := followBranches_work hresolve (hw.takeUp hpending hinvoke) hfollow
    have hafter : ({ w₁ with progress := w₁.progress.setAfter i after } : Walk).work
        r.program.statements.length = w₁.work r.program.statements.length := by
      simp only [Walk.work, Progress.room_setAfter]
    omega

end work

/-! ### Faults of the single operations -/

/-- A resolver stops with faults of the program only, as long as at most `k` functions were not
visited. -/
def Resolver.Stops (r : Registry) (k : Nat) (resolve : Resolver) : Prop :=
  ∀ (Open : Nat → Prop) (g : Nat) (s : Progress), Inv r Open s →
    (s.unvisited r.program.functions.length).card ≤ k →
    StopsOnly (Fault.Justified r.program) (resolve g s)

section stops

variable {r : Registry} {resolve : Resolver} {Open : Nat → Prop} {k f i t : Nat} {at' : ApState}
  {s : Progress} {w : Walk}

theorem merge_stops (hinv : Inv r Open s) (ht : t < r.program.statements.length)
    (hvisiting : s.status f = .visiting) :
    StopsOnly (Fault.Justified r.program) (merge r.program f t at' s) := by
  have hfunction : ∀ {g}, s.status g ≠ .unvisited →
      ∃ function, r.program.functions[g]? = some function := by
    intro g hg
    have hlt := Progress.lt_of_status_ne hg
    rw [hinv.length_functions] at hlt
    exact ⟨_, List.getElem?_eq_getElem hlt⟩
  unfold merge
  split
  · exact .ok
  · rename_i site hsite
    split
    · rename_i hne
      obtain ⟨first, hfirst⟩ := hfunction (hinv.started t site hsite)
      obtain ⟨second, hsecond⟩ := hfunction (by rw [hvisiting]; simp : s.status f ≠ .unvisited)
      rw [functionId_eq hfirst, functionId_eq hsecond]
      exact .error (.shared ht hfirst hsecond hne)
    · split
      · exact .ok
      · split
        · exact .error (.mismatch ht)
        · dsimp only
          split <;> exact .ok

theorem arrive_stops (hw : WalkInv r Open f w) (ht : t < r.program.statements.length) :
    StopsOnly (Fault.Justified r.program) (Walk.arrive r.program f t at' w) :=
  (merge_stops hw.inv ht hw.visiting).bind fun _ _ => .ok

theorem advance_stops (hstops : resolve.Stops r k) (hinv : Inv r Open s)
    (hk : (s.unvisited r.program.functions.length).card ≤ k) (e : ApEffect) :
    StopsOnly (Fault.Justified r.program) (advance r.program resolve i at' e s) := by
  cases e with
  | known | enableTracking | disableTracking => exact .ok
  | call callee =>
    refine StopsOnly.bind ?_ fun _ _ => .ok
    unfold calleeChange
    split
    · exact .ok
    · refine (hstops Open _ s hinv hk).bind fun progress _ => ?_
      split <;> exact .ok

theorem followBranches_stops (hresolve : resolve.Sound r) (hstops : resolve.Stops r k)
    {bs : List (Branch × BranchSignature)} (hw : WalkInv r Open f w)
    (hk : (w.progress.unvisited r.program.functions.length).card ≤ k)
    (hbs : ∀ b ∈ bs, (b.1.target.resolve i).toNat < r.program.statements.length ∨
      Fault.Justified r.program (.pastEnd i)) :
    StopsOnly (Fault.Justified r.program) (followBranches r.program resolve f i at' bs w) := by
  induction bs generalizing w with
  | nil => exact .ok
  | cons b rest ih =>
    unfold followBranches
    refine (advance_stops hstops hw.inv hk _).bind fun advanced hadvance => ?_
    obtain ⟨next, progress⟩ := advanced
    obtain ⟨hinv, hpreserves, -⟩ := advance_sound hresolve hadvance hw.inv
    have hw₀ := hw.preserves hinv hpreserves
    dsimp only
    split
    · rename_i ht
      refine (arrive_stops hw₀ ht).bind fun w₁ harrive => ?_
      obtain ⟨hw₁, hgrows, -⟩ := arrive_inv hw₀ ht harrive
      have hk₁ := (Finset.card_le_card ((hgrows.progress.unvisited_subset _).trans
        ((hpreserves.extends f).unvisited_subset _))).trans hk
      exact (ih hw₁ hk₁ fun b' hb' => hbs b' (List.mem_cons_of_mem b hb')).bind fun _ _ => .ok
    · rename_i ht
      exact .error ((hbs b List.mem_cons_self).resolve_left ht)

theorem target_lt (hvalid : r.Valid) {inv : Invocation} {branch : Branch}
    (hinvoke : r.program.statements[i]? = some (.invoke inv)) (hbranch : branch ∈ inv.branches) :
    (branch.target.resolve i).toNat < r.program.statements.length ∨
      Fault.Justified r.program (.pastEnd i) := by
  obtain ⟨lib, -, hinvocation⟩ := hvalid.invocation hinvoke
  obtain ⟨b, hb⟩ := List.getElem?_of_mem hbranch
  obtain ⟨sig, hsig⟩ := hinvocation.exists_signature hb
  rcases (hinvocation.branch hb hsig).target with ⟨htarget, -⟩ | ⟨t, htarget, -, hnonneg, hlt⟩
  · have hi := (List.getElem?_eq_some_iff.mp hinvoke).1
    rcases Nat.lt_or_eq_of_le (Nat.succ_le_of_lt hi) with hlt | heq
    · refine .inl ?_
      rw [htarget]
      exact hlt
    · exact .inr (.pastEnd hinvoke hbranch htarget heq)
  · refine .inl ?_
    rw [htarget]
    show t.toNat < _
    omega

theorem visit_stops (hvalid : r.Valid) (hresolve : resolve.Sound r) (hstops : resolve.Stops r k)
    {rest : List Nat} (hw : WalkInv r Open f w) (hpending : w.pending = i :: rest)
    (hk : (w.progress.unvisited r.program.functions.length).card ≤ k) :
    StopsOnly (Fault.Justified r.program) (visit r resolve f i { w with pending := rest }) := by
  obtain ⟨site, hsite, -⟩ := hw.pending i (by rw [hpending]; exact List.mem_cons_self)
  have hi : i < r.program.statements.length := by
    rw [← hw.inv.length_sites]
    exact Progress.lt_of_site? hsite
  obtain ⟨statement, hstatement⟩ : ∃ statement, r.program.statements[i]? = some statement :=
    ⟨_, List.getElem?_eq_getElem hi⟩
  unfold visit
  rw [hstatement, hsite]
  cases statement with
  | ret vars => exact .ok
  | invoke inv =>
    obtain ⟨lib, hlib, -⟩ := hvalid.invocation hstatement
    simp only [hlib]
    refine (followBranches_stops hresolve hstops (hw.takeUp hpending hstatement) hk
      fun b hb => target_lt hvalid hstatement ?_).bind fun _ _ => .ok
    exact (List.of_mem_zip hb).1

theorem walkAll_stops (hvalid : r.Valid) (hresolve : resolve.Sound r) (hstops : resolve.Stops r k)
    {fuel : Nat} (hw : WalkInv r Open f w)
    (hk : (w.progress.unvisited r.program.functions.length).card ≤ k)
    (hfuel : w.work r.program.statements.length ≤ fuel) :
    StopsOnly (Fault.Justified r.program) (walkAll r resolve f fuel w) := by
  induction fuel generalizing w with
  | zero =>
    have hpending : w.pending = [] := by
      rw [← List.length_eq_zero_iff]
      unfold Walk.work at hfuel
      omega
    unfold walkAll
    rw [hpending]
    exact .ok
  | succ fuel ih =>
    unfold walkAll
    split
    · exact .ok
    · rename_i i rest hpending
      refine (visit_stops hvalid hresolve hstops hw hpending hk).bind fun w₁ hvisit => ?_
      obtain ⟨hw₁, hext⟩ := visit_inv hresolve hw hpending hvisit
      have hwork := visit_work hresolve hw hpending hvisit
      exact ih hw₁ ((Finset.card_le_card (hext.unvisited_subset _)).trans hk) (by omega)

theorem walk_stops (hvalid : r.Valid) (hresolve : resolve.Sound r) (hstops : resolve.Stops r k)
    {entry : Nat} (hinv : Inv r Open s) (hvisiting : s.status f = .visiting)
    (hnew : ∀ i site, s.site? i = some site → site.owner ≠ f)
    (hk : (s.unvisited r.program.functions.length).card ≤ k) :
    StopsOnly (Fault.Justified r.program) (walk r resolve f entry s) := by
  unfold walk walkWithin
  rw [note_bind]
  split
  · rename_i hlt
    refine (merge_stops hinv hlt hvisiting).bind fun ⟨changed, s₁⟩ hmerge => ?_
    obtain ⟨-, hw, hext⟩ := WalkInv.enter hinv hvisiting hnew hlt hmerge
    refine (walkAll_stops hvalid hresolve hstops hw
      ((Finset.card_le_card (hext.unvisited_subset _)).trans hk) ?_).bind fun _ _ => .ok
    have hroom : ∑ i ∈ Finset.range r.program.statements.length, s₁.room i ≤
        r.program.statements.length * 2 := by
      simpa using Finset.sum_le_card_nsmul (Finset.range r.program.statements.length) s₁.room 2
        fun i _ => s₁.room_le_two i
    simp only [Walk.work, visitBound, List.length_singleton]
    omega
  · exact .ok

end stops

/-! ### Functions -/

section functions

variable {r : Registry}

theorem card_unvisited_setStatus {s : Progress} {f n : Nat} (hf : f < n)
    (hlt : f < s.functions.length) (hunvisited : s.status f = .unvisited) :
    ((s.setStatus f .visiting).unvisited n).card < (s.unvisited n).card := by
  refine Finset.card_lt_card (Finset.ssubset_iff_of_subset
    ((extends_setStatus_visiting hunvisited).unvisited_subset n) |>.mpr ⟨f, ?_, ?_⟩)
  · rw [Progress.unvisited, Finset.mem_filter]
    exact ⟨Finset.mem_range.mpr hf, hunvisited⟩
  · rw [Progress.unvisited, Finset.mem_filter, Progress.status_setStatus_self hlt]
    simp

/-- A depth greater than the number of functions that were not visited suffices. -/
theorem resolve_stops (hvalid : r.Valid) {depth k : Nat} (hdepth : k < depth) :
    (resolve r depth).Stops r k := by
  induction depth generalizing k with
  | zero => exact absurd hdepth (Nat.not_lt_zero k)
  | succ depth ih =>
    intro Open f s hinv hk
    unfold resolve resolveWithin
    split
    · rename_i function hunvisited hfunction
      have hf := (List.getElem?_eq_some_iff.mp hfunction).1
      have hlt := hinv.lt_functions hfunction
      have hcard := card_unvisited_setStatus hf hlt hunvisited
      exact (walk_stops (k := k - 1) hvalid (resolve_sound r depth) (ih (by omega))
        (hinv.begin hunvisited hlt) (Progress.status_setStatus_self hlt _)
        (hinv.owner_ne hunvisited) (by omega)).bind fun _ _ => .ok
    · exact .ok

theorem resolveAll_stops (hvalid : r.Valid) {Open : Nat → Prop} {fs : List Nat} {s : Progress}
    (hinv : Inv r Open s) : StopsOnly (Fault.Justified r.program) (resolveAll r fs s) := by
  induction fs generalizing s with
  | nil => exact .ok
  | cons f fs ih =>
    have hcard : (s.unvisited r.program.functions.length).card ≤ r.program.functions.length := by
      simpa [Progress.unvisited] using
        Finset.card_filter_le (Finset.range r.program.functions.length) _
    refine (resolve_stops hvalid (Nat.lt_succ_self _) Open f s hinv hcard).bind fun s₁ hresolve => ?_
    exact ih (resolve_sound r _ Open f s s₁ hresolve hinv).1

end functions

end SierraCasm.Ap

namespace SierraCasm

open Ap in
/-- The analysis of a valid program stops with faults of the program only. -/
theorem analyze_stops {r : Registry} (hvalid : r.Valid) :
    StopsOnly (Fault.Justified r.program) (analyze r) :=
  (resolveAll_stops hvalid (inv_start r fun _ => False)).bind fun _ _ => .ok

end SierraCasm
