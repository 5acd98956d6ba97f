import SierraCasm.Proofs.Ap.Logged
import SierraCasm.Proofs.Ap.Runs

/-! # How often the analysis does the same thing

Over a whole analysis, whether it succeeds or stops at a fault, each function is walked at most
once, the position recorded for a statement changes at most twice, first to where it is reached and
then to the position of a join, and a statement is taken from the pending ones at most twice
(`analyze_revisits`).

Each of the three is paid for by something that only gets less: a function that was not visited, the
changes left at a statement (`Progress.room`), and these together with how often it is pending.
`Accounts` balances a stretch of the log against them; it composes along the operations
(`Logged.Accounted`), so that one step of each kind is all there is to check. -/

namespace SierraCasm.Ap

open Sierra Concrete

/-- The positions recorded for a statement, in order. -/
def recordedAt (i : Nat) (log : List Event) : List ApState :=
  log.filterMap fun
    | .record j s => if j = i then some s else none
    | _ => none

/-- The changes of the position at statement `i`: it is reached, and then paths join there. -/
inductive History (i : Nat) : Option ApState → List ApState → Option ApState → Prop
  | still (o : Option ApState) : History i o [] o
  | reach {s : ApState} {l : List ApState} {o : Option ApState} :
      History i (some s) l o → History i none (s :: l) o
  | join {s : ApState} {l : List ApState} {o : Option ApState} : s ≠ .atJoin i →
      History i (some (.atJoin i)) l o → History i (some s) (.atJoin i :: l) o

namespace History

variable {i : Nat} {a b c : Option ApState} {l l' : List ApState}

theorem append (h : History i a l b) (h' : History i b l' c) : History i a (l ++ l') c := by
  induction h with
  | still _ => exact h'
  | reach _ ih => exact .reach (ih h')
  | join hne _ ih => exact .join hne (ih h')

theorem of_none (h : History i none l b) : (∃ s, l <+: [s, .atJoin i]) ∧ b = l.getLast? := by
  cases h with
  | still => exact ⟨⟨.entry, List.nil_prefix⟩, rfl⟩
  | reach h =>
    cases h with
    | still => exact ⟨⟨_, List.prefix_append [_] [ApState.atJoin i]⟩, rfl⟩
    | join _ h =>
      cases h with
      | still => exact ⟨⟨_, List.prefix_refl _⟩, rfl⟩
      | join hne _ => exact absurd rfl hne

end History

/-! ### Positions and pending statements -/

namespace Progress

variable {s : Progress} {i j : Nat} {site : Site}

theorem state?_of_site (h : s.site? i = some site) : s.state? i = some site.state := by
  rw [state?, h, Option.map_some]

theorem state?_setSite_self (h : i < s.sites.length) (site : Site) :
    (s.setSite i site).state? i = some site.state :=
  state?_of_site (site?_setSite_self h site)

theorem state?_setSite_of_ne (h : j ≠ i) (site : Site) :
    (s.setSite i site).state? j = s.state? j := by
  rw [state?, site?_setSite_of_ne h, state?]

theorem state?_setAfter (s : Progress) (i j : Nat) (after : List ApState) :
    (s.setAfter i after).state? j = s.state? j := by
  cases hi : s.site? i with
  | none => rw [setAfter, hi]
  | some site =>
    rw [setAfter_eq hi]
    by_cases hj : j = i
    · subst hj
      rw [state?_setSite_self (lt_of_site? hi), state?_of_site hi]
    · exact state?_setSite_of_ne hj _

end Progress

theorem count_insert_self_le (i : Nat) (is : List Nat) :
    (Ascending.insert i is).count i ≤ is.count i + 1 := by
  induction is with
  | nil => simp [Ascending.insert]
  | cons j is ih =>
    unfold Ascending.insert
    split
    · simp
    · split
      · exact Nat.le_succ _
      · rw [List.count_cons, List.count_cons]
        omega

theorem count_insert_of_ne {i j : Nat} (h : j ≠ i) (is : List Nat) :
    (Ascending.insert i is).count j = is.count j := by
  induction is with
  | nil => simp [Ascending.insert, Ne.symm h]
  | cons k is ih =>
    unfold Ascending.insert
    split
    · exact List.count_cons_of_ne (Ne.symm h)
    · split
      · rfl
      · rw [List.count_cons, List.count_cons, ih]

/-! ### Accounts -/

/-- One for a function that was not visited. -/
def Progress.unseen (s : Progress) (f : Nat) : Nat :=
  match s.status f with
  | .unvisited => 1
  | _ => 0

theorem unseen_start (p : Program) (f : Nat) : (Progress.start p).unseen f = 1 := by
  rw [Progress.unseen, Progress.status_start]

/-- What is logged between two points of a walk is paid for by what gets less between them. -/
structure Accounts (w : Walk) (log : List Event) (w' : Walk) : Prop where
  walks : ∀ f, log.count (.walk f) + w'.progress.unseen f = w.progress.unseen f
  takes : ∀ i, log.count (.take i) + w'.progress.room i + w'.pending.count i ≤
    w.progress.room i + w.pending.count i
  records : ∀ i, History i (w.progress.state? i) (recordedAt i log) (w'.progress.state? i)
  pending : ∀ i, i ∈ w.pending ∨ w.progress.state? i = none ∧ w'.progress.state? i ≠ none →
    .take i ∈ log ∨ i ∈ w'.pending

/-- The point between walks: nothing is pending. -/
def Walk.idle (s : Progress) : Walk := { pending := [], progress := s }

namespace Accounts

variable {w w' w'' : Walk} {log log' : List Event} {f i t : Nat} {s s' : Progress}

/-- Nothing is logged where nothing changes; the returns noted do not matter. -/
theorem still (hprogress : w'.progress = w.progress) (hpending : w'.pending = w.pending) :
    Accounts w [] w' where
  walks f := by
    rw [hprogress]
    exact Nat.zero_add _
  takes i := by
    rw [hprogress, hpending]
    simp
  records i := by
    rw [hprogress]
    exact .still _
  pending i := by
    rw [hprogress, hpending]
    exact fun h => .inr (h.resolve_right fun hnew => hnew.2 hnew.1)

theorem refl (w : Walk) : Accounts w [] w := still rfl rfl

theorem trans (h : Accounts w log w') (h' : Accounts w' log' w'') :
    Accounts w (log ++ log') w'' where
  walks f := by
    have hfirst := h.walks f
    have hsecond := h'.walks f
    rw [List.count_append]
    omega
  takes i := by
    have hfirst := h.takes i
    have hsecond := h'.takes i
    rw [List.count_append]
    omega
  records i := by
    rw [recordedAt, List.filterMap_append]
    exact (h.records i).append (h'.records i)
  pending i hi := by
    have hfirst : .take i ∈ log ∨ (i ∈ w'.pending ∨
        w'.progress.state? i = none ∧ w''.progress.state? i ≠ none) := by
      by_cases hreached : w'.progress.state? i = none
      · rcases hi with hi | ⟨-, hnew⟩
        · exact (h.pending i (.inl hi)).imp_right .inl
        · exact .inr (.inr ⟨hreached, hnew⟩)
      · exact (h.pending i (hi.imp_right fun hnew => ⟨hnew.1, hreached⟩)).imp_right .inl
    rcases hfirst with htaken | hwaits
    · exact .inl (List.mem_append_left _ htaken)
    · exact (h'.pending i hwaits).imp_left (List.mem_append_right _)

/-- What happens while no walk is going on may as well happen in the middle of one. -/
theorem frame (h : Accounts (.idle s) log w') (w : Walk) :
    Accounts { w with progress := s } log
      { w with pending := w'.pending ++ w.pending, progress := w'.progress } where
  walks := h.walks
  takes i := by
    have hidle := h.takes i
    simp only [Walk.idle, List.count_nil] at hidle
    simp only [List.count_append]
    omega
  records := h.records
  pending i hi := by
    rw [List.mem_append]
    rcases hi with hi | hnew
    · exact .inr (.inr hi)
    · exact (h.pending i (.inr hnew)).imp_right .inl

theorem take {rest : List Nat} (h : w.pending = i :: rest) :
    Accounts w [.take i] { w with pending := rest } where
  walks f := by simp
  takes j := by
    rw [h, List.count_singleton, List.count_cons]
    by_cases hj : j = i
    · simp only [hj, beq_self_eq_true, if_true]
      omega
    · simp [Ne.symm hj]
  records j := .still _
  pending j hj := by
    rw [h, List.mem_cons] at hj
    rcases hj with (rfl | hj) | hnew
    · exact .inl List.mem_cons_self
    · exact .inr hj
    · exact absurd hnew.1 hnew.2

theorem begin (hlt : f < s.functions.length) (hunvisited : s.status f = .unvisited) :
    Accounts (.idle s) [.walk f] (.idle (s.setStatus f .visiting)) where
  walks g := by
    by_cases hg : g = f
    · subst hg
      simp [Walk.idle, Progress.unseen, hunvisited, Progress.status_setStatus_self hlt]
    · simp [Walk.idle, Progress.unseen, Progress.status_setStatus_of_ne hg, Ne.symm hg]
  takes j := by
    simp [Walk.idle, Progress.room]
  records j := .still _
  pending j hj := by
    have hnew := hj.resolve_left List.not_mem_nil
    exact absurd hnew.1 hnew.2

theorem finish (hvisiting : s.status f = .visiting) (change : ApChange) :
    Accounts (.idle s) [] (.idle (s.setStatus f (.done change))) where
  walks g := by
    by_cases hg : g = f
    · subst hg
      have hlt : g < s.functions.length := Progress.lt_of_status_ne (by rw [hvisiting]; simp)
      simp [Walk.idle, Progress.unseen, hvisiting, Progress.status_setStatus_self hlt]
    · simp [Walk.idle, Progress.unseen, Progress.status_setStatus_of_ne hg]
  takes j := by
    simp [Walk.idle, Progress.room]
  records j := .still _
  pending j hj := by
    have hnew := hj.resolve_left List.not_mem_nil
    exact absurd hnew.1 hnew.2

theorem setAfter (w : Walk) (i : Nat) (after : List ApState) :
    Accounts w [] { w with progress := w.progress.setAfter i after } where
  walks f := by
    cases hi : w.progress.site? i with
    | none => simp [Progress.setAfter, hi]
    | some site => simp [Progress.setAfter_eq hi, Progress.unseen]
  takes j := by simp [Progress.room_setAfter]
  records j := by
    rw [Progress.state?_setAfter]
    exact .still _
  pending j hj := by
    rw [Progress.state?_setAfter] at hj
    exact .inr (hj.resolve_right fun hnew => hnew.2 hnew.1)

/-- A position that is recorded where none is, or where paths join first, is paid for by the changes
left. -/
theorem record (site : Site) (hlt : t < w.progress.sites.length)
    (hchange : w.progress.site? t = none ∨
      ∃ site₀, w.progress.site? t = some site₀ ∧ site₀.state ≠ .atJoin t ∧
        site.state = .atJoin t) :
    Accounts w [.record t site.state]
      { w with
        pending := Ascending.insert t w.pending
        progress := w.progress.setSite t site } where
  walks f := by simp [Progress.unseen]
  takes j := by
    by_cases hj : j = t
    · subst hj
      have hcount := count_insert_self_le j w.pending
      have hroom := Progress.room_setSite_lt hlt hchange
      have hcost : [Event.record j site.state].count (.take j) = 0 := by simp
      dsimp only
      omega
    · rw [count_insert_of_ne hj, Progress.room_setSite_of_ne hj]
      simp
  records j := by
    by_cases hj : j = t
    · subst hj
      have hlog : recordedAt j [.record j site.state] = [site.state] := by simp [recordedAt]
      rw [hlog, Progress.state?_setSite_self hlt]
      rcases hchange with hnone | ⟨site₀, hsite₀, hne, hjoin⟩
      · rw [Progress.state?, hnone]
        exact .reach (.still _)
      · rw [Progress.state?_of_site hsite₀, hjoin]
        exact .join hne (.still _)
    · have hlog : recordedAt j [.record t site.state] = [] := by simp [recordedAt, Ne.symm hj]
      rw [hlog, Progress.state?_setSite_of_ne hj]
      exact .still _
  pending j hj := by
    refine .inr ((Ascending.mem_insert t j w.pending).mpr ?_)
    rcases hj with hj | ⟨hnone, hnew⟩
    · exact .inr hj
    · refine .inl (Classical.byContradiction fun hne => hnew ?_)
      rw [Progress.state?_setSite_of_ne hne, hnone]

end Accounts

/-! ### Accounted computations -/

namespace Logged

/-- The log of a computation from `w` is accounted for; if the computation succeeds, at the point of
the walk that its result stands for. -/
def Accounted {α : Type} (w : Walk) (after : α → Walk) (x : Logged α) : Prop :=
  ∃ w', Accounts w x.log w' ∧ ∀ a, x.outcome = .ok a → w' = after a

namespace Accounted

variable {α β : Type} {w : Walk} {after : α → Walk} {x : Logged α} {s : Progress}

theorem pure (a : α) (h : Accounts w [] (after a)) :
    (Pure.pure a : Logged α).Accounted w after := by
  refine ⟨after a, h, fun a' ha' => ?_⟩
  cases ha'
  rfl

theorem fault (e : Fault) : (stop e : Logged α).Accounted w after :=
  ⟨w, .refl w, fun _ h => by cases h⟩

theorem note {e : Event} {w' : Walk} (h : Accounts w [e] w') :
    (Ap.note e : Logged Unit).Accounted w fun _ => w' :=
  ⟨w', h, fun _ _ => rfl⟩

theorem bind {f : α → Logged β} {after' : β → Walk} (hx : x.Accounted w after)
    (hf : ∀ a, x.outcome = .ok a → (f a).Accounted (after a) after') :
    (x >>= f).Accounted w after' := by
  obtain ⟨w₁, hx, hw₁⟩ := hx
  obtain ⟨log, outcome⟩ := x
  cases outcome with
  | error e => exact ⟨w₁, hx, fun _ h => by cases h⟩
  | ok a =>
    obtain rfl : w₁ = after a := hw₁ a rfl
    obtain ⟨w₂, hfa, hw₂⟩ := hf a rfl
    exact ⟨w₂, hx.trans hfa, hw₂⟩

theorem frame {after : α → Progress} (h : x.Accounted (.idle s) fun a => .idle (after a))
    (w : Walk) : x.Accounted { w with progress := s } fun a => { w with progress := after a } := by
  obtain ⟨w', hx, hw'⟩ := h
  refine ⟨_, hx.frame w, fun a ha => ?_⟩
  rw [hw' a ha]
  rfl

end Accounted

/-- A resolver accounts for what it logs. -/
def ResolverAccounted (r : Registry) (resolve : Resolver Logged) : Prop :=
  ∀ (Open : Nat → Prop) (g : Nat) (s : Progress), Inv r Open s →
    (resolve g s).Accounted (.idle s) .idle

variable {r : Registry} {resolve : Resolver Logged} {Open : Nat → Prop} {f i t : Nat}
  {at' : ApState} {w : Walk} {s : Progress}

theorem merge_accounted (hlt : t < w.progress.sites.length) :
    (merge r.program f t at' w.progress : Logged _).Accounted w fun merged =>
      { w with
        pending := if merged.1 then Ascending.insert t w.pending else w.pending
        progress := merged.2 } := by
  unfold merge
  cases hsite : w.progress.site? t with
  | none =>
    have hreach := Accounts.record { state := at', owner := f } hlt (.inl hsite)
    exact (Accounted.note hreach).bind fun _ _ => .pure _ (.refl _)
  | some site =>
    dsimp only
    split
    · exact .fault _
    · split
      · exact .pure _ (.refl w)
      · split
        · exact .fault _
        · rename_i htracking
          rw [ApState.join_eq_atJoin htracking]
          split
          · exact .pure _ (.refl w)
          · rename_i hne
            have hjoin := Accounts.record { site with state := .atJoin t } hlt
              (.inr ⟨site, hsite, Ne.symm hne, rfl⟩)
            exact (Accounted.note hjoin).bind fun _ _ => .pure _ (.refl _)

theorem arrive_accounted (hw : WalkInv r Open f w) (ht : t < r.program.statements.length) :
    (Walk.arrive r.program f t at' w : Logged _).Accounted w id := by
  have hlt : t < w.progress.sites.length := by rw [hw.inv.length_sites]; exact ht
  exact (merge_accounted hlt).bind fun merged _ => .pure _ (.refl _)

theorem advance_accounted (hresolve : ResolverAccounted r resolve) (hw : WalkInv r Open f w)
    (e : ApEffect) :
    (advance r.program resolve i at' e w.progress).Accounted w
      fun advanced => { w with progress := advanced.2 } := by
  cases e with
  | known | enableTracking | disableTracking => exact .pure _ (.refl w)
  | call callee =>
    have hcallee : (calleeChange r.program resolve callee w.progress).Accounted (.idle w.progress)
        fun called => .idle called.2 := by
      unfold calleeChange
      cases r.program.functionIndex? callee with
      | none => exact .pure _ (.refl _)
      | some g =>
        refine (hresolve _ g w.progress hw.inv).bind fun s' _ => ?_
        cases s'.status g <;> exact .pure _ (.refl _)
    exact (hcallee.frame w).bind fun called _ => .pure _ (.refl _)

theorem followBranches_accounted (hsound : (plain resolve).Sound r) (hresolve : ResolverAccounted r resolve)
    (bs : List (Branch × BranchSignature)) (hw : WalkInv r Open f w) :
    (followBranches r.program resolve f i at' bs w).Accounted w (·.2) := by
  induction bs generalizing w with
  | nil => exact .pure _ (.refl w)
  | cons b rest ih =>
    refine (advance_accounted hresolve hw _).bind fun advanced hadvance => ?_
    rw [outcome_advance] at hadvance
    obtain ⟨hinv, hpreserves, -⟩ := advance_sound hsound hadvance hw.inv
    have hw₀ := hw.preserves hinv hpreserves
    dsimp only
    split
    · rename_i ht
      refine (arrive_accounted hw₀ ht).bind fun w₁ harrive => ?_
      rw [outcome_arrive] at harrive
      obtain ⟨hw₁, -, -⟩ := arrive_inv hw₀ ht harrive
      exact (ih hw₁).bind fun _ _ => .pure _ (.refl _)
    · exact .fault _

theorem visit_accounted (hsound : (plain resolve).Sound r) (hresolve : ResolverAccounted r resolve)
    {rest : List Nat} (hw : WalkInv r Open f w) (hpending : w.pending = i :: rest) :
    (visit r resolve f i { w with pending := rest }).Accounted { w with pending := rest } id := by
  unfold visit
  split
  · exact .pure _ (.still rfl rfl)
  · rename_i inv site hinvoke _
    split
    · exact .fault _
    · refine (followBranches_accounted hsound hresolve _ (hw.takeUp hpending hinvoke)).bind
        fun followed _ => ?_
      exact .pure _ (.setAfter _ i _)
  · exact .fault _

theorem walkAll_accounted (hsound : (plain resolve).Sound r) (hresolve : ResolverAccounted r resolve)
    (visits : Nat) (hw : WalkInv r Open f w) : (walkAll r resolve f visits w).Accounted w id := by
  induction visits generalizing w with
  | zero =>
    unfold walkAll
    split
    · exact .pure _ (.refl w)
    · exact .fault _
  | succ visits ih =>
    unfold walkAll
    split
    · exact .pure _ (.refl w)
    · rename_i i rest hpending
      refine (Accounted.note (.take hpending)).bind fun _ _ => ?_
      refine (visit_accounted hsound hresolve hw hpending).bind fun w₁ hvisit => ?_
      rw [outcome_visit] at hvisit
      exact ih (visit_inv hsound hw hpending hvisit).1

theorem walk_accounted (hsound : (plain resolve).Sound r) (hresolve : ResolverAccounted r resolve)
    {entry : Nat} (hinv : Inv r Open s) (hunvisited : s.status f = .unvisited)
    (hf : f < s.functions.length) (visits : Nat) :
    (walkWithin r resolve visits f entry (s.setStatus f .visiting)).Accounted (.idle s)
      fun walked => .idle walked.2 := by
  have hbegin := hinv.begin hunvisited hf
  have hnew := hinv.owner_ne hunvisited
  refine (Accounted.note (.begin hf hunvisited)).bind fun _ _ => ?_
  split
  · rename_i hlt
    have hlt' : entry < (s.setStatus f .visiting).sites.length := by
      rw [hbegin.length_sites]
      exact hlt
    refine (merge_accounted (w := .idle (s.setStatus f .visiting)) hlt').bind
      fun merged hmerge => ?_
    obtain ⟨changed, s₁⟩ := merged
    rw [outcome_merge] at hmerge
    obtain ⟨-, hw, -⟩ :=
      WalkInv.enter hbegin (Progress.status_setStatus_self hf _) hnew hlt hmerge
    -- The entry is new to the function, so that its arrival pays for its being pending.
    obtain rfl : changed = true := by
      rcases merge_cases hmerge with ⟨-, rfl, -⟩ | ⟨site, hsite, howner, -⟩ |
        ⟨site, hsite, howner, -⟩
      · rfl
      · exact absurd howner (hnew _ site hsite)
      · exact absurd howner (hnew _ site hsite)
    refine (walkAll_accounted hsound hresolve visits hw).bind fun w₁ hwalk => ?_
    rw [outcome_walkAll] at hwalk
    obtain ⟨-, hnil, -⟩ := walkAll_inv hsound hw hwalk
    exact .pure _ (.still rfl hnil.symm)
  · exact .pure _ (.refl _)

theorem resolve_accounted (r : Registry) (depth : Nat) :
    ResolverAccounted r (resolveWithin r (visitBound r.program) depth) := by
  induction depth with
  | zero => exact fun Open g s hinv => .fault _
  | succ depth ih =>
    intro Open f s hinv
    have hsound : (plain (resolveWithin r (visitBound r.program) depth)).Sound r := by
      rw [plain_resolveWithin]
      exact resolve_sound r depth
    unfold resolveWithin
    split
    · rename_i function hunvisited hfunction
      have hf := hinv.lt_functions hfunction
      refine (walk_accounted hsound ih hinv hunvisited hf _).bind fun walked hwalk => ?_
      rw [outcome_walkWithin] at hwalk
      have hvisiting : (s.setStatus f .visiting).status f = .visiting :=
        Progress.status_setStatus_self hf _
      obtain ⟨-, hext, -⟩ := walk_inv hsound hfunction (hinv.begin hunvisited hf) hvisiting
        (hinv.owner_ne hunvisited) hwalk
      have hvisiting₁ : walked.2.status f = .visiting := by
        rw [hext.status f (by rw [hvisiting]; simp), hvisiting]
      exact .pure _ (.finish hvisiting₁ walked.1)
    · exact .pure _ (.refl _)

theorem resolveAll_accounted (r : Registry) (depth : Nat) (fs : List Nat) (hinv : Inv r Open s) :
    (resolveAllWithin r (visitBound r.program) depth fs s : Logged _).Accounted (.idle s) .idle := by
  induction fs generalizing s with
  | nil => exact .pure _ (.refl _)
  | cons f fs ih =>
    refine (resolve_accounted r depth Open f s hinv).bind fun s₁ hresolve => ?_
    have hresolved : Ap.resolve r depth f s = .ok s₁ := by
      rw [Ap.resolve, ← plain_resolveWithin]
      exact hresolve
    exact ih (resolve_sound r depth Open f s s₁ hresolved hinv).1

end Logged

/-! ### The whole analysis -/

/-- Functions are walked at most once, positions change at most twice, first to where the statement
is reached and then to that of a join, and statements are taken up at most twice. -/
structure Revisits (log : List Event) : Prop where
  walk : ∀ f, log.count (.walk f) ≤ 1
  record : ∀ i, ∃ s, recordedAt i log <+: [s, .atJoin i]
  take : ∀ i, log.count (.take i) ≤ 2

/-- The log of an analysis with result `m`: every function is walked, the position found at a
statement was recorded last, and every reached statement is taken up. -/
structure Accomplishes (p : Program) (log : List Event) (m : Metadata) : Prop where
  walk : ∀ f < p.functions.length, .walk f ∈ log
  record : ∀ i, m.state? i = (recordedAt i log).getLast?
  take : ∀ i s, m.state? i = some s → .take i ∈ log

namespace Accounts

variable {p : Program} {log : List Event} {w : Walk} {s : Progress}

/-- What is accounted for from the start is done a few times only. -/
theorem revisits (h : Accounts (.idle (.start p)) log w) : Revisits log where
  walk f := by
    have hwalks := h.walks f
    rw [Walk.idle, unseen_start] at hwalks
    omega
  record i := by
    have hrecords := h.records i
    rw [Walk.idle, Progress.state?, Progress.site?_start] at hrecords
    exact hrecords.of_none.1
  take i := by
    have htakes := h.takes i
    have hroom := (Progress.start p).room_le_two i
    simp only [Walk.idle, List.count_nil] at htakes
    omega

theorem accomplishes (h : Accounts (.idle (.start p)) log (.idle s))
    (hdone : ∀ f < p.functions.length, ∃ change, s.status f = .done change) :
    Accomplishes p log (.ofProgress s) where
  walk f hf := by
    obtain ⟨change, hchange⟩ := hdone f hf
    have hwalks := h.walks f
    have hseen : s.unseen f = 0 := by rw [Progress.unseen, hchange]
    rw [Walk.idle, Walk.idle, unseen_start, hseen] at hwalks
    exact List.count_pos_iff.mp (by omega)
  record i := by
    have hrecords := h.records i
    rw [Walk.idle, Progress.state?, Progress.site?_start] at hrecords
    exact hrecords.of_none.2
  take i at' hi := by
    have hstate : s.state? i = some at' := hi
    refine (h.pending i (.inr ⟨?_, ?_⟩)).resolve_right List.not_mem_nil
    · rw [Walk.idle, Progress.state?, Progress.site?_start, Option.map_none]
    · rw [Walk.idle, hstate]
      simp

end Accounts

end SierraCasm.Ap

namespace SierraCasm

open Sierra Ap

/-- The analysis of a validated program comes to an end, and on the way it does the same thing a few
times only: there is one log that every run keeps whose bounds are great enough, with the outcome of
the analysis, which is not that the bounds are used up. -/
theorem analyze_revisits {p : Program} {r : Registry} (hbuild : Registry.build p = .ok r) :
    ∃ log : List Event,
      (∀ visits depth, visitBound p ≤ visits → p.functions.length < depth →
        Logged.analyze r visits depth = { log := log, outcome := analyze r }) ∧
      (∀ i, analyze r ≠ .error (.exhausted i)) ∧
      Revisits log ∧ ∀ m, analyze r = .ok m → Accomplishes p log m := by
  obtain ⟨rfl, hvalid⟩ := Registry.build_valid hbuild
  have hfault : ∀ i, analyze r ≠ .error (.exhausted i) := by
    intro i hi
    cases analyze_stops hvalid _ hi
  obtain ⟨w, haccounts, hw⟩ := Logged.resolveAll_accounted r (r.program.functions.length + 1)
    (List.range r.program.functions.length) (inv_start r fun _ => False)
  rw [← Logged.log_analyze] at haccounts
  rw [Logged.outcome_resolveAllWithin] at hw
  refine ⟨_, fun visits depth hvisits hdepth => ?_, hfault, haccounts.revisits, fun m hm => ?_⟩
  · rw [Logged.analyze_continues hvisits hdepth (by rw [Logged.outcome_analyze]; exact hfault),
      ← Logged.outcome_analyze]
  · obtain ⟨s, hresolve, hs⟩ := bind_eq_ok.mp hm
    cases hs
    obtain rfl : w = .idle s := hw s hresolve
    obtain ⟨-, -, hall⟩ := resolveAll_inv (inv_start r fun _ => False)
      (status_start_ne_visiting r.program) (fun g hg => List.mem_range.mp hg) hresolve
    exact haccounts.accomplishes fun f hf => hall f (List.mem_range.mpr hf)

/-- Function `0` calls function `1` on every turn of a loop without tracking, and function `1` calls
function `0`. -/
def callingLoop : Program where
  types := [.numbered 0 "felt252"]
  libfuncs :=
    [.numbered 0 "disable_ap_tracking", .numbered 1 "store_temp" [.type { id := 0 }],
     .numbered 2 "jump", .numbered 3 "function_call" [.userFunc { id := 0 }],
     .numbered 4 "function_call" [.userFunc { id := 1 }]]
  statements :=
    [.numbered 0 [] [(.fallthrough, [])],
     .numbered 1 [0] [(.fallthrough, [0])],
     .numbered 4 [0] [(.fallthrough, [0])],
     .numbered 2 [] [(.statement 1, [])],
     .numbered 1 [0] [(.fallthrough, [0])],
     .numbered 3 [0] [(.fallthrough, [0])],
     .ret [⟨0⟩]]
  functions := [.numbered 0 [0] [0] 0, .numbered 1 [0] [0] 4]

/-- The call in the loop of `callingLoop` is taken up twice: at the position of the first turn, and
after paths have joined. -/
theorem analyze_revisits_callingLoop :
    ∃ r log m, Registry.build callingLoop = .ok r ∧ analyze r = .ok m ∧ Revisits log ∧
      Accomplishes callingLoop log m ∧ log.count (.take 2) = 2 ∧
      recordedAt 2 log = [{ offset := 1 }, .atJoin 2] := by
  obtain ⟨r, hbuild, hr⟩ : ∃ r, Registry.build callingLoop = .ok r ∧
      ((analyze r).toOption.isSome &&
        (decide ((Logged.analyze r 15 3).log.count (.take 2) = 2) &&
        decide (recordedAt 2 (Logged.analyze r 15 3).log = [{ offset := 1 }, .atJoin 2]))) = true :=
    exists_of_toOption_any (by decide +kernel)
  simp only [Bool.and_eq_true, decide_eq_true_eq] at hr
  obtain ⟨hanalyze, htake, hrecord⟩ := hr
  obtain ⟨log, hlog, -, hrevisits, haccomplishes⟩ := analyze_revisits hbuild
  rw [hlog 15 3 (by decide) (by decide)] at htake hrecord
  cases hm : analyze r with
  | error e =>
    rw [hm] at hanalyze
    cases hanalyze
  | ok m => exact ⟨r, log, m, hbuild, hm, hrevisits, haccomplishes m hm, htake, hrecord⟩

end SierraCasm
