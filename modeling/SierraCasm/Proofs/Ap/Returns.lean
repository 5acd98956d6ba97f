import SierraCasm.Proofs.Ap.Reachability

/-! # Known changes and returns

A function whose returns are all at one offset from its entry has that offset as its change, and
the converse holds unless a return is at another, negative offset (`returnsAgree_iff`): a negative
offset stands for "no return so far" where returns are compared, so the return after it is compared
with nothing.  Offsets are negative only where the sizes of types have wrapped. -/

namespace SierraCasm

open Sierra Concrete

/-- Function `f` reaches a return, and each one that it reaches is at offset `n` from its entry. -/
def Metadata.ReturnsAgree (r : Registry) (m : Metadata) (f : Nat) (n : Int64) : Prop :=
  Ap.HasBody r f ∧ (∃ i, r.CanReach f i ∧ r.IsReturn i) ∧
    ∀ i, r.CanReach f i → r.IsReturn i →
      ∃ s, m.state? i = some s ∧ s.epoch = 0 ∧ s.offset = n

namespace Ap

section changes

variable {r : Registry} {m : Metadata} {f i : Nat} {n : Int64}

theorem agreedChange_of_forall {states : List ApState}
    (h : ∀ s ∈ states, s.epoch = 0 ∧ s.offset = n) : agreedChange n states = .known n := by
  induction states with
  | nil => rfl
  | cons s rest ih =>
    obtain ⟨hepoch, hoffset⟩ := h s List.mem_cons_self
    rw [agreedChange, if_neg (by simp [hepoch, hoffset]), hoffset]
    exact ih fun t ht => h t (List.mem_cons_of_mem s ht)

theorem changeOfReturns_of_forall {states : List ApState} (hne : states ≠ [])
    (h : ∀ s ∈ states, s.epoch = 0 ∧ s.offset = n) : changeOfReturns states = .known n := by
  cases states with
  | nil => exact absurd rfl hne
  | cons s rest =>
    obtain ⟨hepoch, hoffset⟩ := h s List.mem_cons_self
    have hfirst : ¬ (0 : Int64) ≤ -1 := by decide
    rw [changeOfReturns, agreedChange, if_neg (by simp [hepoch, hfirst]), hoffset]
    · exact agreedChange_of_forall fun t ht => h t (List.mem_cons_of_mem s ht)
    · exact fun hnil => by cases hnil

/-- The change of a function comes from the positions at the returns that it reaches. -/
theorem exists_states_of_change {c : ApChange} (h : analyze r = .ok m)
    (hc : m.changes[f]? = some c) :
    ∃ states, c = changeOfReturns states ∧
      ∀ s, s ∈ states ↔ ∃ i, r.CanReach f i ∧ r.IsReturn i ∧ m.state? i = some s := by
  obtain ⟨is, his, hgive⟩ := (analyze_consistent h).change hc
  refine ⟨_, hgive, fun s => ?_⟩
  rw [List.mem_filterMap]
  refine exists_congr fun i => ?_
  rw [his, owner_iff_canReach h, and_comm (a := r.IsReturn i), and_assoc]

theorem hasBody_of_canReach (h : r.CanReach f i) : HasBody r f := by
  induction h with
  | entry hfunction hlt => exact ⟨_, hfunction, hlt⟩
  | branch _ _ ih => exact ih

end changes

end Ap

/-- The returns of a function agree on an offset exactly if that is its change and none of them is
at another, negative offset. -/
theorem returnsAgree_iff {r : Registry} {m : Metadata} (h : analyze r = .ok m) {f : Nat}
    {n : Int64} :
    m.ReturnsAgree r f n ↔ m.changes[f]? = some (.known n) ∧
      ∀ i s, r.CanReach f i → r.IsReturn i → m.state? i = some s → s.offset < 0 →
        s.offset = n := by
  have hm := analyze_consistent h
  constructor
  · rintro ⟨⟨function, hfunction, -⟩, ⟨i, hreach, hreturn⟩, hagree⟩
    have hlt : f < m.changes.length := by
      rw [hm.length_changes]
      exact (List.getElem?_eq_some_iff.mp hfunction).1
    obtain ⟨states, hgive, hstates⟩ :=
      Ap.exists_states_of_change h (List.getElem?_eq_getElem hlt)
    refine ⟨?_, fun i s hreach hreturn hs _ => ?_⟩
    · rw [List.getElem?_eq_getElem hlt, hgive, Ap.changeOfReturns_of_forall]
      · obtain ⟨s, hs, -⟩ := hagree i hreach hreturn
        exact List.ne_nil_of_mem ((hstates s).mpr ⟨i, hreach, hreturn, hs⟩)
      · intro s hs
        obtain ⟨i, hreach, hreturn, hs⟩ := (hstates s).mp hs
        obtain ⟨s', hs', hagree⟩ := hagree i hreach hreturn
        obtain rfl : s = s' := Option.some.inj (hs.symm.trans hs')
        exact hagree
    · obtain ⟨s', hs', -, hoffset⟩ := hagree i hreach hreturn
      obtain rfl : s = s' := Option.some.inj (hs.symm.trans hs')
      exact hoffset
  · rintro ⟨hknown, hnegative⟩
    obtain ⟨states, hgive, hstates⟩ := Ap.exists_states_of_change h hknown
    cases states with
    | nil => cases hgive
    | cons s rest =>
      obtain ⟨i, hreach, hreturn, hs⟩ := (hstates s).mp List.mem_cons_self
      refine ⟨Ap.hasBody_of_canReach hreach, ⟨i, hreach, hreturn⟩, fun j hreach hreturn => ?_⟩
      obtain ⟨site, hsite, howner⟩ :=
        Ap.owner?_eq_some_iff.mp ((Ap.owner_iff_canReach h).mpr hreach)
      obtain ⟨hepoch, hoffset⟩ := Ap.return_of_known hm hknown hsite howner hreturn
      have hstate : m.state? j = some site.state := by
        rw [Metadata.state?, hsite, Option.map_some]
      refine ⟨site.state, hstate, hepoch, ?_⟩
      by_cases hneg : site.state.offset < 0
      · exact hnegative j site.state hreach hreturn hstate hneg
      · exact hoffset (Int64.not_lt.mp hneg)

/-- The second function of `relay` returns with two cells more. -/
theorem returnsAgree_relay :
    ∃ r m, Registry.build relay = .ok r ∧ analyze r = .ok m ∧
      m.changes[1]? = some (.known 2) ∧ m.ReturnsAgree r 1 2 := by
  obtain ⟨r, hbuild, hr⟩ : ∃ r, Registry.build relay = .ok r ∧
      ((analyze r).toOption.any fun m => decide (m.changes[1]? = some (ApChange.known 2)) &&
        m.sites.all fun site => site.all fun site => decide (0 ≤ site.state.offset)) = true :=
    exists_of_toOption_any (by decide +kernel)
  obtain ⟨m, hanalyze, hm⟩ := exists_of_toOption_any hr
  rw [Bool.and_eq_true, decide_eq_true_eq] at hm
  obtain ⟨hchange, hnonneg⟩ := hm
  refine ⟨r, m, hbuild, hanalyze, hchange,
    (returnsAgree_iff hanalyze).mpr ⟨hchange, fun i s _ _ hs hneg => ?_⟩⟩
  obtain ⟨site, hsite, rfl⟩ := Option.map_eq_some_iff.mp hs
  have hmem := List.mem_of_getElem? (Option.join_eq_some_iff.mp hsite)
  have hsome := List.all_eq_true.mp hnonneg _ hmem
  rw [Option.all_some, decide_eq_true_eq] at hsome
  exact absurd hneg (Int64.not_lt.mpr hsome)

/-- The change of `wrappedSizes` is known to be `0`, although one of its returns is at another
offset. -/
theorem not_returnsAgree_wrappedSizes :
    ∃ r m s, Registry.build wrappedSizes = .ok r ∧ analyze r = .ok m ∧
      m.changes[0]? = some (.known 0) ∧ r.CanReach 0 2 ∧ r.IsReturn 2 ∧ m.state? 2 = some s ∧
      s.offset = Int64.minValue ∧ ¬ m.ReturnsAgree r 0 0 := by
  obtain ⟨r, hbuild, hr⟩ : ∃ r, Registry.build wrappedSizes = .ok r ∧
      ((analyze r).toOption.any fun m => decide (m.changes[0]? = some (ApChange.known 0)) &&
        (decide (m.owner? 2 = some 0) &&
        decide (m.state? 2 = some { offset := Int64.minValue, tracking := true }))) = true :=
    exists_of_toOption_any (by decide +kernel)
  obtain ⟨m, hanalyze, hm⟩ := exists_of_toOption_any hr
  simp only [Bool.and_eq_true, decide_eq_true_eq] at hm
  obtain ⟨hchange, howner, hstate⟩ := hm
  have hreach := (Ap.owner_iff_canReach hanalyze).mp howner
  have hreturn : r.IsReturn 2 := by
    rw [Registry.IsReturn, (Registry.build_valid hbuild).1]
    exact ⟨_, rfl⟩
  refine ⟨r, m, _, hbuild, hanalyze, hchange, hreach, hreturn, hstate, rfl, fun hagree => ?_⟩
  obtain ⟨s, hs, -, hoffset⟩ := hagree.2.2 2 hreach hreturn
  rw [hstate] at hs
  cases hs
  revert hoffset
  decide

end SierraCasm
