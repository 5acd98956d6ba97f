import SierraCasm.Proofs.Ap.Termination

/-! # The analysis with a log

What the analysis notes, kept as a log: walks that begin, statements that are taken from the pending
ones, and positions that are recorded.  With the bounds of the analysis, the outcome is that of the
analysis (`outcome_analyze`).  Beyond that the bounds do not matter: a run that does not use them up
goes the same way with any greater ones (`analyze_continues`). -/

namespace SierraCasm.Ap

open Sierra Concrete

def Progress.state? (s : Progress) (i : Nat) : Option ApState := (s.site? i).map (·.state)

/-- A computation with a log; a fault ends both. -/
structure Logged (α : Type) where
  log : List Event
  outcome : Except Fault α

namespace Logged

instance : Analyzing Logged where
  pure a := ⟨[], .ok a⟩
  bind x f :=
    match x.outcome with
    | .ok a => ⟨x.log ++ (f a).log, (f a).outcome⟩
    | .error e => ⟨x.log, .error e⟩
  stop e := ⟨[], .error e⟩
  note e := ⟨[e], .ok ()⟩

/-- The analysis with a log, with at most `visits` visits in a walk and calls at most `depth`
deep. -/
def analyze (r : Registry) (visits depth : Nat) : Logged Metadata := analyzeWithin r visits depth

/-! ### The outcome is that of the analysis -/

section outcome

variable {α β : Type}

theorem outcome_bind (x : Logged α) (f : α → Logged β) :
    (x >>= f).outcome = x.outcome >>= fun a => (f a).outcome := by
  obtain ⟨log, outcome⟩ := x
  cases outcome <;> rfl

/-- The resolver without its log. -/
def plain (resolve : Resolver Logged) : Resolver := fun g s => (resolve g s).outcome

variable {p : Program} {r : Registry} {resolve : Resolver Logged} {f i : Nat} {s : ApState}

theorem outcome_merge (progress : Progress) :
    (merge p f i s progress : Logged _).outcome = merge p f i s progress := by
  unfold merge
  cases progress.site? i with
  | none => rfl
  | some site =>
    dsimp only
    repeat' split
    all_goals rfl

theorem outcome_arrive (w : Walk) :
    (Walk.arrive p f i s w : Logged _).outcome = Walk.arrive p f i s w := by
  rw [Walk.arrive, outcome_bind, outcome_merge]
  rfl

theorem outcome_advance (e : ApEffect) (progress : Progress) :
    (advance p resolve i s e progress).outcome = advance p (plain resolve) i s e progress := by
  cases e with
  | known | enableTracking | disableTracking => rfl
  | call callee =>
    simp only [advance, calleeChange, outcome_bind]
    cases p.functionIndex? callee with
    | none => rfl
    | some g =>
      simp only [outcome_bind]
      congr 2
      funext progress'
      cases progress'.status g <;> rfl

theorem outcome_followBranches (bs : List (Branch × BranchSignature)) (w : Walk) :
    (followBranches p resolve f i s bs w).outcome =
      followBranches p (plain resolve) f i s bs w := by
  induction bs generalizing w with
  | nil => rfl
  | cons b rest ih =>
    simp only [followBranches, outcome_bind, outcome_advance]
    congr 1
    funext advanced
    split
    · simp only [outcome_bind, outcome_arrive, ih]
      rfl
    · rfl

theorem outcome_visit (w : Walk) :
    (visit r resolve f i w).outcome = visit r (plain resolve) f i w := by
  unfold visit
  split
  · rfl
  · split
    · rfl
    · simp only [outcome_bind, outcome_followBranches]
      rfl
  · rfl

theorem outcome_walkAll (visits : Nat) (w : Walk) :
    (walkAll r resolve f visits w).outcome = walkAll r (plain resolve) f visits w := by
  induction visits generalizing w with
  | zero =>
    unfold walkAll
    split <;> rfl
  | succ visits ih =>
    unfold walkAll
    split
    · rfl
    · simp only [outcome_bind, outcome_visit, ih]
      rfl

theorem outcome_walkWithin (visits entry : Nat) (progress : Progress) :
    (walkWithin r resolve visits f entry progress).outcome =
      walkWithin r (plain resolve) visits f entry progress := by
  unfold walkWithin
  split
  · simp only [outcome_bind, outcome_merge, outcome_walkAll]
    rfl
  · rfl

theorem plain_resolveWithin (r : Registry) (visits depth : Nat) :
    plain (resolveWithin r visits depth) = resolveWithin r visits depth := by
  induction depth with
  | zero => rfl
  | succ depth ih =>
    funext g progress
    unfold plain resolveWithin
    split
    · simp only [outcome_bind, outcome_walkWithin, ih]
      rfl
    · rfl

theorem outcome_resolveAllWithin (visits depth : Nat) (fs : List Nat) (progress : Progress) :
    (resolveAllWithin r visits depth fs progress : Logged _).outcome =
      resolveAllWithin r visits depth fs progress := by
  induction fs generalizing progress with
  | nil => rfl
  | cons f fs ih =>
    simp only [resolveAllWithin, outcome_bind, ih, ← plain_resolveWithin]
    rfl

/-- With the bounds of the analysis, the outcome is that of the analysis. -/
theorem outcome_analyze (r : Registry) :
    (analyze r (visitBound r.program) (r.program.functions.length + 1)).outcome =
      SierraCasm.analyze r := by
  simp only [analyze, SierraCasm.analyze, analyzeWithin, outcome_bind, outcome_resolveAllWithin]
  rfl

theorem log_bind_pure (x : Logged α) (f : α → β) :
    (x >>= fun a => pure (f a)).log = x.log := by
  obtain ⟨log, outcome⟩ := x
  cases outcome with
  | error e => rfl
  | ok a => exact List.append_nil log

/-- The analysis logs what the functions that it resolves log. -/
theorem log_analyze (r : Registry) (visits depth : Nat) :
    (analyze r visits depth).log = (resolveAllWithin r visits depth
      (List.range r.program.functions.length) (.start r.program) : Logged _).log :=
  log_bind_pure _ _

end outcome

/-! ### Greater bounds -/

section bounds

variable {α β : Type}

/-- `y` is the same run as `x`, unless `x` uses up its bounds. -/
def Continues (x y : Logged α) : Prop := (∀ i, x.outcome ≠ .error (.exhausted i)) → y = x

theorem Continues.refl (x : Logged α) : Continues x x := fun _ => rfl

theorem Continues.bind {x y : Logged α} {f g : α → Logged β} (hx : Continues x y)
    (hf : ∀ a, Continues (f a) (g a)) : Continues (x >>= f) (y >>= g) := by
  intro h
  have hxy : y = x := hx fun i hi => h i (by rw [outcome_bind, hi]; rfl)
  subst hxy
  obtain ⟨log, outcome⟩ := y
  cases outcome with
  | error e => rfl
  | ok a =>
    have hga : g a = f a := hf a fun i hi => h i (by rw [outcome_bind]; exact hi)
    show Logged.mk (log ++ (g a).log) (g a).outcome = ⟨log ++ (f a).log, (f a).outcome⟩
    rw [hga]

variable {p : Program} {r : Registry} {resolve resolve' : Resolver Logged} {f i : Nat} {s : ApState}

theorem walkAll_of_pending_nil {w : Walk} (h : w.pending = []) (visits : Nat) :
    walkAll r resolve f visits w = pure w := by
  cases visits <;> simp only [walkAll, h]

section resolver

variable (hresolve : ∀ g progress, Continues (resolve g progress) (resolve' g progress))

include hresolve

theorem advance_continues (e : ApEffect) (progress : Progress) :
    Continues (advance p resolve i s e progress) (advance p resolve' i s e progress) := by
  cases e with
  | known | enableTracking | disableTracking => exact .refl _
  | call callee =>
    refine Continues.bind ?_ fun _ => .refl _
    unfold calleeChange
    cases p.functionIndex? callee with
    | none => exact .refl _
    | some g => exact (hresolve g progress).bind fun _ => .refl _

theorem followBranches_continues (bs : List (Branch × BranchSignature)) (w : Walk) :
    Continues (followBranches p resolve f i s bs w) (followBranches p resolve' f i s bs w) := by
  induction bs generalizing w with
  | nil => exact .refl _
  | cons b rest ih =>
    refine (advance_continues hresolve _ _).bind fun advanced => ?_
    dsimp only
    split
    · exact (Continues.refl _).bind fun w₁ => (ih w₁).bind fun _ => .refl _
    · exact .refl _

theorem visit_continues (w : Walk) :
    Continues (visit r resolve f i w) (visit r resolve' f i w) := by
  unfold visit
  split
  · exact .refl _
  · split
    · exact .refl _
    · exact (followBranches_continues hresolve _ w).bind fun _ => .refl _
  · exact .refl _

theorem walkAll_continues {visits visits' : Nat} (hvisits : visits ≤ visits') (w : Walk) :
    Continues (walkAll r resolve f visits w) (walkAll r resolve' f visits' w) := by
  induction visits generalizing visits' w with
  | zero =>
    cases hpending : w.pending with
    | nil =>
      rw [walkAll_of_pending_nil hpending, walkAll_of_pending_nil hpending]
      exact .refl _
    | cons i rest =>
      intro h
      unfold walkAll at h
      rw [hpending] at h
      exact absurd rfl (h i)
  | succ visits ih =>
    obtain ⟨visits', rfl⟩ : ∃ n, visits' = n + 1 := ⟨visits' - 1, by omega⟩
    unfold walkAll
    split
    · exact .refl _
    · refine (Continues.refl _).bind fun _ => (visit_continues hresolve _).bind fun w₁ => ?_
      exact ih (Nat.le_of_succ_le_succ hvisits) w₁

end resolver

theorem resolveWithin_continues {visits visits' depth depth' : Nat} (hvisits : visits ≤ visits')
    (hdepth : depth ≤ depth') (g : Nat) (progress : Progress) :
    Continues (resolveWithin r visits depth g progress)
      (resolveWithin r visits' depth' g progress) := by
  induction depth generalizing depth' g progress with
  | zero => exact fun h => absurd rfl (h 0)
  | succ depth ih =>
    obtain ⟨depth', rfl⟩ : ∃ n, depth' = n + 1 := ⟨depth' - 1, by omega⟩
    unfold resolveWithin
    split
    · refine Continues.bind ?_ fun _ => .refl _
      refine (Continues.refl _).bind fun _ => ?_
      split
      · refine (Continues.refl _).bind fun _ => ?_
        refine (walkAll_continues (ih (Nat.le_of_succ_le_succ hdepth)) hvisits _).bind fun _ => ?_
        exact .refl _
      · exact .refl _
    · exact .refl _

theorem resolveAllWithin_continues {visits visits' depth depth' : Nat} (hvisits : visits ≤ visits')
    (hdepth : depth ≤ depth') (fs : List Nat) (progress : Progress) :
    Continues (resolveAllWithin r visits depth fs progress)
      (resolveAllWithin r visits' depth' fs progress) := by
  induction fs generalizing progress with
  | nil => exact .refl _
  | cons f fs ih => exact (resolveWithin_continues hvisits hdepth f progress).bind ih

/-- A run of the analysis that does not use up its bounds goes the same way with greater ones. -/
theorem analyze_continues {visits visits' depth depth' : Nat} (hvisits : visits ≤ visits')
    (hdepth : depth ≤ depth') : Continues (analyze r visits depth) (analyze r visits' depth') :=
  (resolveAllWithin_continues hvisits hdepth _ _).bind fun _ => .refl _

end bounds

end Logged

end SierraCasm.Ap
