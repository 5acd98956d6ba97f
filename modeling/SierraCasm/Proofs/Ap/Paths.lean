import SierraCasm.Proofs.Ap.Completion
import SierraCasm.Proofs.Ap.Runs

/-! # Positions along single paths

`PathAt` follows one path of a function and never joins it with another: from the entry, each branch
advances the position as the analysis does.  Once a callee is resolved or being resolved, a call
leads to the same position from then on (`advance_later`), so a path keeps its positions while the
analysis goes on (`PathAt.mono`).

Every statement that a walk reaches lies on a path, and if the position recorded there is tracked,
some path leads to exactly that position (`Occurs.traces`): joins are never tracked, and
`enable_ap_tracking` forgets the position before it.  So where the analysis stops because of
different positions there are two paths to them (`differentPaths_of_mismatch`). -/

namespace SierraCasm

open Sierra Concrete

/-- Function `f` can reach statement `i` along branches from its entry. -/
inductive Registry.CanReach (r : Registry) (f : Nat) : Nat → Prop
  | entry {function : Function} : r.program.functions[f]? = some function →
      function.entry.toNat < r.program.statements.length → CanReach r f function.entry.toNat
  | branch {i b target : Nat} {lib : ConcreteLibfunc} {sig : BranchSignature} :
      CanReach r f i → r.Edge i b lib sig target → CanReach r f target

namespace Ap

variable {r : Registry} {Open : Nat → Prop} {depth f i b target : Nat} {at' : ApState}
  {e : ApEffect} {lib : ConcreteLibfunc} {sig : BranchSignature} {s s' s'' : Progress}

/-! ### Branches that are followed again -/

section branches

variable {next : ApState}

theorem lt_of_functionIndex {p : Program} {callee : Ident} {g : Nat}
    (h : p.functionIndex? callee = some g) : g < p.functions.length := by
  rw [Program.functionIndex?, List.findIdx?_eq_some_iff_getElem] at h
  exact h.1

theorem visited_of_resolve {g : Nat} (hinv : Inv r Open s) (hg : g < r.program.functions.length)
    (h : resolve r depth g s = .ok s') : s'.status g ≠ .unvisited := by
  by_cases hidle : s.status g = .visiting
  · obtain ⟨-, hpreserves⟩ := resolve_sound r depth Open g s s' h hinv
    rw [hpreserves.status g (by rw [hidle]; simp), hidle]
    simp
  · obtain ⟨change, hdone⟩ := resolve_done hg hinv hidle h
    rw [hdone]
    simp

theorem resolve_visited {g : Nat} (h : s.status g ≠ .unvisited) :
    resolve r (depth + 1) g s = .ok s := by
  unfold resolve resolveWithin
  split
  · rename_i hunvisited _
    exact absurd hunvisited h
  · rfl

/-- A branch that was followed leads to the same position from then on, and nothing more is
resolved. -/
theorem advance_later (hinv : Inv r Open s)
    (h : advance r.program (resolve r depth) i at' e s = .ok (next, s'))
    (hlater : ∀ g, s'.status g ≠ .unvisited → s''.status g = s'.status g) :
    advance r.program (resolve r depth) i at' e s'' = .ok (next, s'') := by
  cases e with
  | known | enableTracking | disableTracking =>
    cases h
    rfl
  | call callee =>
    cases hg : r.program.functionIndex? callee with
    | none =>
      simp only [advance, calleeChange, hg] at h ⊢
      cases h
      rfl
    | some g =>
      obtain ⟨hresolve, rfl⟩ := advance_call_eq_ok rfl hg h
      have hvisited := visited_of_resolve hinv (lt_of_functionIndex hg) hresolve
      have hstatus := hlater g hvisited
      cases depth with
      | zero => cases hresolve
      | succ depth =>
        have hagain : resolve r (depth + 1) g s'' = .ok s'' :=
          resolve_visited (by rw [hstatus]; exact hvisited)
        have hchange : calleeChange r.program (resolve r (depth + 1)) callee s'' =
            .ok (Metadata.changeOfStatus (s''.status g), s'') := by
          simp only [calleeChange, hg]
          refine bind_eq_ok.mpr ⟨s'', hagain, ?_⟩
          cases s''.status g <;> rfl
        rw [← hstatus]
        exact bind_eq_ok.mpr ⟨_, hchange, rfl⟩

/-- What arrives at a statement does not change where the branch leads. -/
theorem advance_arrived {target : Nat} {w w' : Walk} (hinv : Inv r Open s)
    (h : advance r.program (resolve r depth) i at' e s = .ok (next, s'))
    (harrive : Walk.arrive r.program f target next { w with progress := s' } = .ok w') :
    advance r.program (resolve r depth) i at' e w'.progress = .ok (next, w'.progress) := by
  refine advance_later hinv h fun g _ => ?_
  obtain ⟨changed, progress', hmerge, rfl⟩ := arrive_eq_ok harrive
  rcases merge_cases hmerge with ⟨-, -, rfl⟩ | ⟨_, -, -, -, -, rfl⟩ | ⟨_, -, -, -, rfl⟩ <;> rfl

/-- Whether a branch can be followed does not depend on the position. -/
theorem advance_from (h : advance r.program (resolve r depth) i at' e s = .ok (next, s'))
    (t : ApState) : ∃ next', advance r.program (resolve r depth) i t e s = .ok (next', s') := by
  cases e with
  | known | enableTracking | disableTracking =>
    cases h
    exact ⟨_, rfl⟩
  | call callee =>
    obtain ⟨⟨change, s₁⟩, hchange, h⟩ := bind_eq_ok.mp h
    cases h
    exact ⟨_, bind_eq_ok.mpr ⟨(change, s'), hchange, rfl⟩⟩

/-- A position after a branch is tracked if the one before is, or if the branch enables tracking,
from wherever it starts. -/
theorem advance_tracking (h : advance r.program (resolve r depth) i at' e s = .ok (next, s'))
    (htracking : next.tracking = true) : at'.tracking = true ∨
      ∀ t, advance r.program (resolve r depth) i t e s = .ok (next, s') := by
  cases e with
  | known cells =>
    cases h
    exact .inl htracking
  | call callee =>
    obtain ⟨⟨change, s₁⟩, hchange, h⟩ := bind_eq_ok.mp h
    cases h
    cases change with
    | known n => exact .inl htracking
    | unknown => exact .inl htracking
  | enableTracking =>
    cases h
    exact .inr fun _ => rfl
  | disableTracking =>
    cases h
    cases htracking

end branches

/-! ### Paths -/

/-- A path of function `f`, given by the branches it takes, the last one first, leads to a statement
at a position.  The position advances as it does in `s`, where no callee is left to be resolved. -/
inductive PathAt (r : Registry) (depth : Nat) (s : Progress) (f : Nat) :
    List (Nat × Nat) → Nat → ApState → Prop
  | entry {function : Function} : r.program.functions[f]? = some function →
      function.entry.toNat < r.program.statements.length →
      PathAt r depth s f [] function.entry.toNat .entry
  | branch {path : List (Nat × Nat)} {i b target : Nat} {at' next : ApState}
      {lib : ConcreteLibfunc} {sig : BranchSignature} : PathAt r depth s f path i at' →
      r.Edge i b lib sig target →
      advance r.program (resolve r depth) i at' sig.ap s = .ok (next, s) →
      PathAt r depth s f ((i, b) :: path) target next

theorem PathAt.canReach {path : List (Nat × Nat)} (h : PathAt r depth s f path i at') :
    r.CanReach f i := by
  induction h with
  | entry hfunction hlt => exact .entry hfunction hlt
  | branch _ hedge _ ih => exact .branch ih hedge

theorem PathAt.mono {path : List (Nat × Nat)} (hinv : Inv r Open s)
    (hlater : ∀ g, s.status g ≠ .unvisited → s'.status g = s.status g)
    (h : PathAt r depth s f path i at') : PathAt r depth s' f path i at' := by
  induction h with
  | entry hfunction hlt => exact .entry hfunction hlt
  | branch _ hedge hadvance ih => exact .branch ih hedge (advance_later hinv hadvance hlater)

/-- Statement `i` lies on a path, and if position `at'` is tracked, a path leads there at it. -/
structure Traced (r : Registry) (depth : Nat) (s : Progress) (f i : Nat) (at' : ApState) :
    Prop where
  exists_path : ∃ path t, PathAt r depth s f path i t
  tracked : at'.tracking = true → ∃ path, PathAt r depth s f path i at'

theorem Traced.mono (hinv : Inv r Open s)
    (hlater : ∀ g, s.status g ≠ .unvisited → s'.status g = s.status g)
    (h : Traced r depth s f i at') : Traced r depth s' f i at' := by
  obtain ⟨path, t, hpath⟩ := h.exists_path
  refine ⟨⟨path, t, hpath.mono hinv hlater⟩, fun htracking => ?_⟩
  obtain ⟨path', hpath'⟩ := h.tracked htracking
  exact ⟨path', hpath'.mono hinv hlater⟩

theorem Traced.branch {next : ApState} (h : Traced r depth s f i at')
    (hedge : r.Edge i b lib sig target)
    (hadvance : advance r.program (resolve r depth) i at' sig.ap s = .ok (next, s)) :
    Traced r depth s f target next := by
  obtain ⟨path, t, hpath⟩ := h.exists_path
  obtain ⟨next', hnext'⟩ := advance_from hadvance t
  refine ⟨⟨_, next', hpath.branch hedge hnext'⟩, fun htracking => ?_⟩
  rcases advance_tracking hadvance htracking with htracked | henable
  · obtain ⟨path', hpath'⟩ := h.tracked htracked
    exact ⟨_, hpath'.branch hedge hadvance⟩
  · exact ⟨_, hpath.branch hedge (henable t)⟩

theorem Traced.atJoin (h : Traced r depth s f i at') : Traced r depth s f i (.atJoin i) :=
  ⟨h.exists_path, fun htracking => by cases htracking⟩

/-- The sites of the function that is walked through are traced, and so is the position at which a
statement was taken up. -/
def Moment.Traces (r : Registry) : Moment → Prop
  | .resolve _ _ _ => True
  | .walk depth f w => ∀ i site, w.progress.site? i = some site → site.owner = f →
      Traced r depth w.progress f i site.state
  | .follow depth f i at' _ _ w => Traced r depth w.progress f i at' ∧
      ∀ j site, w.progress.site? j = some site → site.owner = f →
        Traced r depth w.progress f j site.state

theorem Moment.Traces.next {x y : Moment} (hoccurs : Occurs r x) (hx : x.Traces r)
    (h : x.Next r y) : y.Traces r := by
  cases h with
  | enter hunvisited hfunction hlt hmerge =>
    obtain ⟨Open, hinv⟩ := hoccurs.sound
    intro j site hj howner
    obtain ⟨rfl, hstate⟩ := hinv.site_of_enter hunvisited hfunction hlt hmerge hj howner
    rw [hstate]
    exact ⟨⟨_, _, .entry hfunction hlt⟩, fun _ => ⟨_, .entry hfunction hlt⟩⟩
  | noteReturn _ _ _ => exact hx
  | takeUp hpending hsite hinvoke hlib =>
    obtain ⟨Open, hw⟩ := hoccurs.sound
    obtain ⟨site', hsite', howner⟩ := hw.pending _ (by rw [hpending]; exact List.mem_cons_self)
    rw [hsite] at hsite'
    cases hsite'
    exact ⟨hx _ _ hsite howner, hx⟩
  | call _ _ => exact trivial
  | @arrive depth f i at' next after branch sig bs w w' s hadvance hlt harrive =>
    obtain ⟨Open, hfollow⟩ := hoccurs.sound
    obtain ⟨hfollow', hgrows⟩ := hfollow.arrive hadvance hlt harrive
    obtain ⟨lib, hedge⟩ := hfollow.edge
    have hinv := hfollow.walk.inv
    have hmono : ∀ {j t}, Traced r depth w.progress f j t → Traced r depth w'.progress f j t :=
      fun htraced => htraced.mono hinv hgrows.progress.status
    have htarget := (hmono hx.1).branch hedge (advance_arrived hinv hadvance harrive)
    refine ⟨hmono hx.1, fun j site hj howner => ?_⟩
    rcases hfollow.site_of_arrive hadvance hlt harrive hj howner with
      hold | ⟨rfl, -, hnext | ⟨hjoin, -⟩⟩
    · exact hmono (hx.2 j site hold howner)
    · rw [hnext]
      exact htarget
    · rw [hjoin]
      exact htarget.atJoin
  | @settle depth f i at' after w =>
    obtain ⟨Open, hfollow⟩ := hoccurs.sound
    obtain ⟨-, hext⟩ := hfollow.settle
    obtain ⟨site₀, hsite₀, howner₀, -⟩ := hfollow.site
    intro j site hj howner
    refine Traced.mono hfollow.walk.inv hext.status ?_
    rcases site_of_setAfter (by rw [hsite₀]; rfl) hj with ⟨-, hold⟩ | ⟨rfl, site₁, hold, rfl⟩
    · exact hx.2 j site hold howner
    · exact hx.2 j site₁ hold howner

theorem Occurs.traces {x : Moment} (h : Occurs r x) : x.Traces r := by
  induction h with
  | root _ _ => exact trivial
  | next hoccurs hnext ih => exact ih.next hoccurs hnext

/-! ### Paths at different positions -/

/-- Two paths of function `f` lead to statement `n` at different positions, and both are
tracked. -/
def DifferentPaths (r : Registry) (depth f n : Nat) (s : Progress) : Prop :=
  ∃ path path' t t', PathAt r depth s f path n t ∧ PathAt r depth s f path' n t' ∧
    t.tracking = true ∧ t'.tracking = true ∧ t ≠ t'

theorem MismatchAt.differentPaths {n : Nat} (h : MismatchAt r depth f n s) :
    DifferentPaths r depth f n s := by
  obtain ⟨i, at', after, branch, sig, bs, w, next, hoccurs, rfl, hadvance, hmerge⟩ := h
  obtain ⟨Open, hfollow⟩ := hoccurs.sound
  obtain ⟨lib, hedge⟩ := hfollow.edge
  have hinv := hfollow.walk.inv
  obtain ⟨-, hpreserves, -⟩ := advance_sound (resolve_sound r depth) hadvance hinv
  obtain ⟨-, site, hsite, howner, hne, htracked, hnext⟩ := merge_eq_mismatch hmerge
  have hsite' := ((hpreserves.extends (f + 1)).site_iff (by rw [hfollow.walk.visiting]; simp)
    (Nat.succ_ne_self f).symm howner).mp hsite
  obtain ⟨htaken, hsites⟩ := hoccurs.traces
  have hmono : ∀ {j t}, Traced r depth w.progress f j t → Traced r depth s f j t :=
    fun htraced => htraced.mono hinv hpreserves.status
  -- One path leads to the recorded position, the other arrives with the branch.
  obtain ⟨path, hpath⟩ := (hmono (hsites _ site hsite' howner)).tracked htracked
  obtain ⟨path', hpath'⟩ := ((hmono htaken).branch hedge
    (advance_later hinv hadvance fun _ _ => rfl)).tracked hnext
  exact ⟨path, path', _, _, hpath, hpath', htracked, hnext, hne⟩

end Ap

/-- If the analysis stops because positions do not agree at a statement, it does so in the walk
through a function, and whichever that is, two of its paths lead to the statement at different
positions that are both tracked. -/
theorem differentPaths_of_mismatch {r : Registry} {n : Nat}
    (h : analyze r = .error (.mismatch n)) :
    (∃ depth f s, Ap.MismatchAt r depth f n s) ∧
      ∀ depth f s, Ap.MismatchAt r depth f n s → Ap.DifferentPaths r depth f n s :=
  ⟨Ap.exists_mismatchAt h, fun _ _ _ hmismatch => hmismatch.differentPaths⟩

/-- One of the two paths to statement `4` calls function `1`, which returns at once, and so moves
`ap` by the words that a call pushes. -/
def lopsided : Program where
  types := [.numbered 0 "felt252", .numbered 1 "NonZero" [.type { id := 0 }]]
  libfuncs :=
    [.numbered 0 "felt252_is_zero", .numbered 1 "function_call" [.userFunc { id := 1 }],
     .numbered 2 "jump", .numbered 3 "drop" [.type { id := 1 }]]
  statements :=
    [.numbered 0 [0] [(.fallthrough, []), (.statement 3, [1])],
     .numbered 1 [] [(.fallthrough, [])],
     .numbered 2 [] [(.statement 4, [])],
     .numbered 3 [1] [(.fallthrough, [])],
     .ret [],
     .ret []]
  functions := [.numbered 0 [0] [] 0, .numbered 1 [] [] 5]

/-- The analysis of `lopsided` stops at statement `4`, for a reason. -/
theorem differentPaths_lopsided :
    ∃ r, Registry.build lopsided = .ok r ∧ analyze r = .error (.mismatch 4) ∧
      (∃ depth f s, Ap.MismatchAt r depth f 4 s) ∧
      ∀ depth f s, Ap.MismatchAt r depth f 4 s → Ap.DifferentPaths r depth f 4 s := by
  obtain ⟨r, hbuild, hr⟩ : ∃ r, Registry.build lopsided = .ok r ∧
      decide (analyze r = .error (.mismatch 4)) = true :=
    exists_of_toOption_any (by decide +kernel)
  have hanalyze := of_decide_eq_true hr
  exact ⟨r, hbuild, hanalyze, differentPaths_of_mismatch hanalyze⟩

end SierraCasm
