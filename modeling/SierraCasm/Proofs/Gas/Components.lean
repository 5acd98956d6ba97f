import Mathlib.Data.List.Basic
import SierraCasm.Gas.Graph

/-! # The order of components

The search closes components in an order in which every edge leads back or stays
(`components_topological`), and every node is in one of them (`mem_components`).  So a graph
without cyclic components has no infinite path: every node is accessible from its successors
(`acc_of_lowestCycle_eq_none`).

The invariant of the search (`Search.Inv`) says this of the components closed so far.  What a search
below a node leaves open leads to discovered nodes only, and to nodes that were open before at or
above the index that it returns (`Extends`); where that index is the one of the node itself,
nothing leads out of the part of the stack that is closed. -/

namespace SierraCasm.Graph

variable {α : Type} {g : Graph α}

/-- The components are listed after those that they lead to. -/
inductive Topological (g : Graph α) : List (List α) → Prop
  | nil : Topological g []
  | snoc {cs : List (List α)} {c : List α} : Topological g cs →
      (∀ v ∈ c, ∀ w ∈ g.succ v, w ∈ c ∨ ∃ d ∈ cs, w ∈ d) → Topological g (cs ++ [c])

/-- Every edge leads to a node. -/
def Closed (g : Graph α) : Prop := ∀ v ∈ g.nodes, ∀ w ∈ g.succ v, w ∈ g.nodes

namespace Search

variable {s s' s'' : Search α} {v w : α} {low : Nat}

/-! ### The invariant -/

/-- The invariant of a search: open nodes are discovered, the other discovered nodes are in the
components closed so far, and these are in order. -/
structure Inv (g : Graph α) (s : Search α) : Prop where
  stack : ∀ v ∈ s.stack, v ∈ s.discovered
  closed : ∀ v ∈ s.discovered, v ∈ s.stack ∨ ∃ c ∈ s.components, v ∈ c
  topological : Topological g s.components

theorem inv_discover (h : Inv g s) (v : α) : Inv g (s.discover v) where
  stack w hw := by
    rcases List.mem_cons.mp hw with rfl | hw
    · exact List.mem_append_right _ List.mem_cons_self
    · exact List.mem_append_left _ (h.stack w hw)
  closed w hw := by
    rcases List.mem_append.mp hw with hw | hw
    · exact (h.closed w hw).imp_left (List.mem_cons_of_mem v)
    · exact .inl (List.mem_cons.mpr (.inl (List.mem_singleton.mp hw)))
  topological := h.topological

variable [DecidableEq α]

/-! ### Indices -/

theorem index_lt (h : v ∈ s.discovered) : s.index v < s.discovered.length :=
  List.idxOf_lt_length_of_mem h

theorem index_append {new : List α} (hs : s'.discovered = s.discovered ++ new)
    (h : v ∈ s.discovered) : s'.index v = s.index v := by
  rw [index, hs, List.idxOf_append_of_mem h, index]

theorem index_discover (h : w ∈ s.discovered) : (s.discover v).index w = s.index w :=
  index_append rfl h

theorem length_le_index {new : List α} (hs : s'.discovered = s.discovered ++ new)
    (h : v ∉ s.discovered) : s.discovered.length ≤ s'.index v := by
  rw [index, hs, List.idxOf_append_of_notMem h]
  exact Nat.le_add_right _ _

/-! ### Progress -/

/-- From `s` to `s'` a search went on: what it left open is new, leads to discovered nodes, and to
nodes that were open before only at or above `low`. -/
structure Extends (g : Graph α) (s s' : Search α) (low : Nat) : Prop where
  discovered : ∃ new, s'.discovered = s.discovered ++ new
  stack : ∃ new, s'.stack = new ++ s.stack ∧ ∀ u ∈ new, u ∉ s.discovered ∧
    ∀ w ∈ g.succ u, w ∈ s'.discovered ∧ (w ∈ s.stack → low ≤ s.index w)

theorem Extends.mem (h : Extends g s s' low) (hv : v ∈ s.discovered) : v ∈ s'.discovered := by
  obtain ⟨new, hnew⟩ := h.discovered
  rw [hnew]
  exact List.mem_append_left new hv

theorem Extends.index_eq (h : Extends g s s' low) (hv : v ∈ s.discovered) :
    s'.index v = s.index v := by
  obtain ⟨new, hnew⟩ := h.discovered
  exact index_append hnew hv

theorem Extends.refl (g : Graph α) (s : Search α) (low : Nat) : Extends g s s low where
  discovered := ⟨[], (List.append_nil _).symm⟩
  stack := ⟨[], rfl, by simp⟩

theorem Extends.trans {low' : Nat} (hinv : Inv g s) (h : Extends g s s' low)
    (h' : Extends g s' s'' low') : Extends g s s'' (min low low') := by
  obtain ⟨found, hfound⟩ := h.discovered
  obtain ⟨found', hfound'⟩ := h'.discovered
  obtain ⟨new, hnew, hopen⟩ := h.stack
  obtain ⟨new', hnew', hopen'⟩ := h'.stack
  refine ⟨⟨found ++ found', by rw [hfound', hfound, List.append_assoc]⟩,
    new' ++ new, by rw [hnew', hnew, List.append_assoc], fun u hu => ?_⟩
  rcases List.mem_append.mp hu with hu | hu
  · obtain ⟨hfresh, hsucc⟩ := hopen' u hu
    refine ⟨fun hmem => hfresh (h.mem hmem), fun w hw => ⟨(hsucc w hw).1, fun hstack => ?_⟩⟩
    have hle := (hsucc w hw).2 (by rw [hnew]; exact List.mem_append_right new hstack)
    rw [h.index_eq (hinv.stack w hstack)] at hle
    exact Nat.le_trans (Nat.min_le_right _ _) hle
  · obtain ⟨hfresh, hsucc⟩ := hopen u hu
    refine ⟨hfresh, fun w hw => ⟨h'.mem (hsucc w hw).1, fun hstack => ?_⟩⟩
    exact Nat.le_trans (Nat.min_le_left _ _) ((hsucc w hw).2 hstack)

theorem Extends.mono {low' : Nat} (h : Extends g s s' low) (hle : low' ≤ low) :
    Extends g s s' low' := by
  obtain ⟨new, hnew, hopen⟩ := h.stack
  refine ⟨h.discovered, new, hnew, fun u hu => ⟨(hopen u hu).1, fun w hw => ?_⟩⟩
  exact ⟨((hopen u hu).2 w hw).1, fun hstack => Nat.le_trans hle (((hopen u hu).2 w hw).2 hstack)⟩

/-- An open node that was open before is one of the old ones by its index. -/
theorem Extends.mem_stack_of_index_lt (hinv : Inv g s) (h : Extends g s s' low)
    (hw : w ∈ s'.stack) (hlt : s'.index w < s.discovered.length) :
    w ∈ s.stack ∧ s'.index w = s.index w := by
  obtain ⟨found, hfound⟩ := h.discovered
  obtain ⟨new, hnew, hopen⟩ := h.stack
  rw [hnew] at hw
  rcases List.mem_append.mp hw with hw | hw
  · exact absurd (length_le_index hfound (hopen w hw).1) (Nat.not_le.mpr hlt)
  · exact ⟨hw, h.index_eq (hinv.stack w hw)⟩

/-- The nodes that are still to be discovered. -/
def fresh (g : Graph α) (s : Search α) : Nat := (g.nodes.filter (· ∉ s.discovered)).length

theorem Extends.fresh_le (h : Extends g s s' low) : fresh g s' ≤ fresh g s := by
  refine List.Sublist.length_le ?_
  refine List.monotone_filter_right _ fun v hv => ?_
  rw [decide_eq_true_eq] at hv ⊢
  exact fun hmem => hv (h.mem hmem)

theorem fresh_discover_lt (hnode : v ∈ g.nodes) (hv : v ∉ s.discovered) :
    fresh g (s.discover v) < fresh g s := by
  have hfilter : g.nodes.filter (· ∉ (s.discover v).discovered) =
      (g.nodes.filter (· ∉ s.discovered)).filter (· ≠ v) := by
    rw [List.filter_filter]
    refine List.filter_congr fun w _ => ?_
    simp [discover, and_comm]
  rw [fresh, fresh, hfilter, List.length_filter_lt_length_iff_exists]
  exact ⟨v, List.mem_filter.mpr ⟨hnode, by simpa using hv⟩, by simp⟩

end Search

/-! ### The search below a node -/

variable [DecidableEq α]

/-- What a search below a new node of `s` finds, if it returns the index `low`. -/
structure Explored (g : Graph α) (s s' : Search α) (low : Nat) : Prop where
  inv : s'.Inv g
  grows : Search.Extends g s s' low
  low_le : low ≤ s.discovered.length
  low_open : low < s.discovered.length → ∃ w ∈ s.stack, s.index w = low
  low_own : low = s.discovered.length → s'.stack = s.stack

/-- An explorer finds what it should below every new node, as long as at most `bound` nodes are
left. -/
def Explorer.Sound (g : Graph α) (bound : Nat) (explore : Explorer α) : Prop :=
  ∀ v s, v ∈ g.nodes → v ∉ s.discovered → s.Inv g → s.fresh g ≤ bound →
    Explored g s (explore v s).2 (explore v s).1 ∧ v ∈ (explore v s).2.discovered

/-- What following some edges finds, starting from the index `low₀`. -/
structure Followed (g : Graph α) (ws : List α) (low₀ : Nat) (s s' : Search α) (low : Nat) :
    Prop where
  inv : s'.Inv g
  grows : Search.Extends g s s' low
  found : ∀ w ∈ ws, w ∈ s'.discovered ∧ (w ∈ s.stack → low ≤ s.index w)
  low_le : low ≤ low₀
  low_open : low < low₀ → ∃ w ∈ s.stack, s.index w = low

/-- An edge to a known node lowers the index to that of the node, if this is open. -/
theorem Search.lowered {s : Search α} {w : α} {low₀ low : Nat}
    (h : (if w ∈ s.stack then min low₀ (s.index w) else low₀) = low) :
    low ≤ low₀ ∧ (w ∈ s.stack → low ≤ s.index w) ∧
      (low < low₀ → w ∈ s.stack ∧ s.index w = low) := by
  subst h
  split
  · rename_i hstack
    refine ⟨Nat.min_le_left _ _, fun _ => Nat.min_le_right _ _, fun hlt => ⟨hstack, ?_⟩⟩
    omega
  · rename_i hstack
    exact ⟨Nat.le_refl _, fun h => absurd h hstack, fun h => absurd h (Nat.lt_irrefl _)⟩

theorem follow_sound {bound : Nat} {explore : Explorer α} (hexplore : explore.Sound g bound)
    {ws : List α} {low₀ : Nat} {s : Search α} (hnodes : ∀ w ∈ ws, w ∈ g.nodes) (hinv : s.Inv g)
    (hfresh : s.fresh g ≤ bound) (hlow : low₀ < s.discovered.length) :
    Followed g ws low₀ s (follow explore ws low₀ s).2 (follow explore ws low₀ s).1 := by
  induction ws generalizing low₀ s with
  | nil => exact ⟨hinv, .refl g s low₀, by simp, Nat.le_refl _, fun h => absurd h (Nat.lt_irrefl _)⟩
  | cons w ws ih =>
    have hrest : ∀ w ∈ ws, w ∈ g.nodes := fun x hx => hnodes x (List.mem_cons_of_mem w hx)
    rw [follow]
    split
    · rename_i hw
      generalize hlow₁ : (if w ∈ s.stack then min low₀ (s.index w) else low₀) = low₁
      obtain ⟨hle₀, hleIndex, hless⟩ := Search.lowered hlow₁
      have h := ih hrest hinv hfresh (Nat.lt_of_le_of_lt hle₀ hlow)
      refine ⟨h.inv, h.grows, fun x hx => ?_, Nat.le_trans h.low_le hle₀, fun hlt => ?_⟩
      · rcases List.mem_cons.mp hx with rfl | hx
        · exact ⟨h.grows.mem hw, fun hstack => Nat.le_trans h.low_le (hleIndex hstack)⟩
        · exact h.found x hx
      · rcases Nat.lt_or_eq_of_le h.low_le with hlt₁ | heq
        · exact h.low_open hlt₁
        · rw [heq] at hlt ⊢
          exact ⟨w, hless hlt⟩
    · rename_i hw
      obtain ⟨hexplored, hmem⟩ := hexplore w s (hnodes w List.mem_cons_self) hw hinv hfresh
      generalize explore w s = result at hexplored hmem ⊢
      obtain ⟨below, s₁⟩ := result
      dsimp only at hexplored hmem ⊢
      obtain ⟨new, hnew⟩ := hexplored.grows.discovered
      have hlow₁ : min low₀ below < s₁.discovered.length := by
        rw [hnew, List.length_append]
        omega
      have h := ih hrest hexplored.inv (Nat.le_trans hexplored.grows.fresh_le hfresh) hlow₁
      have hgrows := (hexplored.grows.trans hinv h.grows).mono
        (Nat.le_min.mpr ⟨Nat.le_trans h.low_le (Nat.min_le_right _ _), Nat.le_refl _⟩)
      refine ⟨h.inv, hgrows, fun x hx => ?_, Nat.le_trans h.low_le (Nat.min_le_left _ _),
        fun hlt => ?_⟩
      · rcases List.mem_cons.mp hx with rfl | hx
        · exact ⟨h.grows.mem hmem, fun hstack => absurd (hinv.stack x hstack) hw⟩
        · refine ⟨(h.found x hx).1, fun hstack => ?_⟩
          obtain ⟨new', hnew', -⟩ := hexplored.grows.stack
          have hle := (h.found x hx).2 (by rw [hnew']; exact List.mem_append_right new' hstack)
          rwa [hexplored.grows.index_eq (hinv.stack x hstack)] at hle
      · rcases Nat.lt_or_eq_of_le h.low_le with hlt₁ | heq
        · obtain ⟨x, hx, hindex⟩ := h.low_open hlt₁
          obtain ⟨hx', hindex'⟩ := hexplored.grows.mem_stack_of_index_lt hinv hx (by omega)
          exact ⟨x, hx', by omega⟩
        · obtain ⟨x, hx, hindex⟩ := hexplored.low_open (by omega)
          exact ⟨x, hx, by omega⟩

/-- Closing takes the open nodes down to `v` off the stack, if `v` is not among the upper ones. -/
theorem Search.close_eq {s : Search α} {v : α} {new rest : List α}
    (hstack : s.stack = new ++ v :: rest) (hv : v ∉ new) :
    s.close v =
      { s with stack := rest, components := s.components ++ [new ++ [v]] } := by
  have hall : ∀ u ∈ new, (u != v) = true := by
    intro u hu
    rw [bne_iff_ne]
    rintro rfl
    exact hv hu
  simp [close, hstack, List.dropWhile_append_of_pos hall, List.takeWhile_append_of_pos hall]

section node

variable {v : α} {s s₁ : Search α} {low : Nat} (hinv : s.Inv g) (hv : v ∉ s.discovered)
  (h : Followed g (g.succ v) s.discovered.length (s.discover v) s₁ low)
include hinv hv h

/-- A new node and what the edges below it left open lead to discovered nodes, and to nodes that
were open before only at or above `low`. -/
theorem Followed.left_open :
    ∃ new, s₁.stack = new ++ v :: s.stack ∧ v ∉ new ∧
      ∀ u ∈ new ++ [v], u ∉ s.discovered ∧
        ∀ w ∈ g.succ u, w ∈ s₁.discovered ∧ (w ∈ s.stack → low ≤ s.index w) := by
  obtain ⟨new, hnew, hopen⟩ := h.grows.stack
  have hself : v ∈ (s.discover v).discovered := List.mem_append_right _ List.mem_cons_self
  have hold : ∀ {w}, (w ∈ (s.discover v).stack → low ≤ (s.discover v).index w) →
      w ∈ s.stack → low ≤ s.index w := by
    intro w hlow hw
    rw [← Search.index_discover (hinv.stack w hw)]
    exact hlow (List.mem_cons_of_mem v hw)
  refine ⟨new, hnew, fun hmem => (hopen v hmem).1 hself, fun u hu => ?_⟩
  rcases List.mem_append.mp hu with hu | hu
  · obtain ⟨hfresh, hedges⟩ := hopen u hu
    exact ⟨fun hmem => hfresh (List.mem_append_left [v] hmem),
      fun w hw => (hedges w hw).imp_right hold⟩
  · rw [List.mem_singleton.mp hu]
    exact ⟨hv, fun w hw => (h.found w hw).imp_right hold⟩

/-- Where nothing leads to a node that was open before, the new part of the stack is closed. -/
theorem Followed.inv_close (hroot : low = s.discovered.length) : (s₁.close v).Inv g := by
  obtain ⟨new, hstack, hvnew, hopen⟩ := h.left_open hinv hv
  have hsplit : ∀ {w}, w ∈ s₁.stack → w ∈ new ++ [v] ∨ w ∈ s.stack := by
    intro w hw
    rw [hstack, ← List.singleton_append, ← List.append_assoc] at hw
    exact List.mem_append.mp hw
  rw [Search.close_eq hstack hvnew]
  refine ⟨fun w hw => ?_, fun w hw => ?_, ?_⟩
  · exact h.grows.mem (List.mem_append_left [v] (hinv.stack w hw))
  · rcases h.inv.closed w hw with hw | ⟨c, hc, hw⟩
    · refine (hsplit hw).symm.imp_right fun hw => ?_
      exact ⟨new ++ [v], List.mem_append_right _ List.mem_cons_self, hw⟩
    · exact .inr ⟨c, List.mem_append_left _ hc, hw⟩
  · refine h.inv.topological.snoc fun u hu w hw => ?_
    obtain ⟨hw₁, hlow⟩ := (hopen u hu).2 w hw
    rcases h.inv.closed w hw₁ with hw₁ | hclosed
    · refine .inl ((hsplit hw₁).resolve_right fun hold => ?_)
      -- An edge to an old open node would have lowered the index.
      have hlt := Search.index_lt (hinv.stack w hold)
      have hle := hlow hold
      omega
    · exact .inr hclosed

/-- An index below that of the node is the one of a node that was open before. -/
theorem Followed.exists_older (hless : low < s.discovered.length) :
    ∃ w ∈ s.stack, s.index w = low := by
  obtain ⟨w, hw, hlow⟩ := h.low_open hless
  rcases List.mem_cons.mp hw with rfl | hw
  · have hle : s.discovered.length ≤ (s.discover w).index w := Search.length_le_index rfl hv
    omega
  · exact ⟨w, hw, by rw [← hlow, Search.index_discover (hinv.stack w hw)]⟩

end node

/-- A search finds what it should, as long as its depth covers the nodes that are left. -/
theorem connect_sound (hclosed : g.Closed) (depth : Nat) :
    Explorer.Sound g depth (connect g depth) := by
  induction depth with
  | zero =>
    intro v s hnode hv hinv hfresh
    have := Search.fresh_discover_lt hnode hv
    omega
  | succ depth ih =>
    intro v s hnode hv hinv hfresh
    have hlt : s.discovered.length < (s.discover v).discovered.length := by
      simp [Search.discover]
    have hfollow := follow_sound ih (hclosed v hnode) (Search.inv_discover hinv v)
      (Nat.le_of_lt_succ (Nat.lt_of_lt_of_le (Search.fresh_discover_lt hnode hv) hfresh)) hlt
    rw [connect]
    generalize follow (connect g depth) (g.succ v) s.discovered.length (s.discover v) = result
      at hfollow ⊢
    obtain ⟨low, s₁⟩ := result
    dsimp only at hfollow ⊢
    obtain ⟨found, hfound⟩ := hfollow.grows.discovered
    obtain ⟨new, hstack, hvnew, hopen⟩ := hfollow.left_open hinv hv
    have hdiscovered : s₁.discovered = s.discovered ++ ([v] ++ found) := by
      rw [hfound, ← List.append_assoc]
      rfl
    have hvmem : v ∈ s₁.discovered :=
      hfollow.grows.mem (List.mem_append_right _ List.mem_cons_self)
    by_cases hroot : low = s.discovered.length
    · have hinv' := hfollow.inv_close hinv hv hroot
      rw [if_pos hroot]
      rw [Search.close_eq hstack hvnew] at hinv' ⊢
      exact ⟨⟨hinv', ⟨⟨_, hdiscovered⟩, [], rfl, by simp⟩, Nat.le_of_eq hroot,
        fun hlt => by omega, fun _ => rfl⟩, hvmem⟩
    · rw [if_neg hroot]
      exact ⟨⟨hfollow.inv, ⟨⟨_, hdiscovered⟩, new ++ [v], by rw [hstack]; simp, hopen⟩,
        hfollow.low_le, hfollow.exists_older hinv hv, fun h => absurd h hroot⟩, hvmem⟩

/-! ### The whole search -/

theorem searchAll_sound (hclosed : g.Closed) {vs : List α} {s : Search α}
    (hnodes : ∀ v ∈ vs, v ∈ g.nodes) (hinv : s.Inv g) (hstack : s.stack = []) :
    (searchAll g vs s).Inv g ∧ (searchAll g vs s).stack = [] ∧
      (∀ v ∈ s.discovered, v ∈ (searchAll g vs s).discovered) ∧
      ∀ v ∈ vs, v ∈ (searchAll g vs s).discovered := by
  induction vs generalizing s with
  | nil => exact ⟨hinv, hstack, fun v hv => hv, by simp⟩
  | cons v vs ih =>
    have hrest : ∀ w ∈ vs, w ∈ g.nodes := fun w hw => hnodes w (List.mem_cons_of_mem v hw)
    rw [searchAll]
    split
    · rename_i hv
      obtain ⟨hinv', hstack', hold, hall⟩ := ih hrest hinv hstack
      refine ⟨hinv', hstack', hold, fun w hw => ?_⟩
      rcases List.mem_cons.mp hw with rfl | hw
      · exact hold w hv
      · exact hall w hw
    · rename_i hv
      have hfresh : s.fresh g ≤ g.nodes.length + 1 :=
        Nat.le_trans (List.length_filter_le _ _) (Nat.le_succ _)
      obtain ⟨hexplored, hmem⟩ :=
        connect_sound hclosed _ v s (hnodes v List.mem_cons_self) hv hinv hfresh
      have hroot : (connect g (g.nodes.length + 1) v s).1 = s.discovered.length := by
        refine Nat.le_antisymm hexplored.low_le (Nat.le_of_not_lt fun hlt => ?_)
        obtain ⟨w, hw, -⟩ := hexplored.low_open hlt
        rw [hstack] at hw
        cases hw
      have hstack₁ := (hexplored.low_own hroot).trans hstack
      obtain ⟨hinv', hstack', hold, hall⟩ := ih hrest hexplored.inv hstack₁
      refine ⟨hinv', hstack', fun w hw => hold w (hexplored.grows.mem hw), fun w hw => ?_⟩
      rcases List.mem_cons.mp hw with rfl | hw
      · exact hold w hmem
      · exact hall w hw

theorem search_sound (hclosed : g.Closed) :
    (searchAll g g.nodes {}).Inv g ∧ (searchAll g g.nodes {}).stack = [] ∧
      ∀ v ∈ g.nodes, v ∈ (searchAll g g.nodes {}).discovered := by
  have hinv : Search.Inv g {} := ⟨by simp, by simp, .nil⟩
  obtain ⟨hinv', hstack, -, hall⟩ := searchAll_sound hclosed (fun _ h => h) hinv rfl
  exact ⟨hinv', hstack, hall⟩

/-- Components are listed after those that they lead to. -/
theorem components_topological (hclosed : g.Closed) : Topological g g.components :=
  (search_sound hclosed).1.topological

theorem mem_components (hclosed : g.Closed) {v : α} (hv : v ∈ g.nodes) :
    ∃ c ∈ g.components, v ∈ c := by
  obtain ⟨hinv, hstack, hall⟩ := search_sound hclosed
  rcases hinv.closed v (hall v hv) with hv | hclosed
  · rw [hstack] at hv
    cases hv
  · exact hclosed

/-! ### Graphs without cycles -/

/-- If no component is a cycle, no path is infinite. -/
theorem Topological.acc {cs : List (List α)} (h : Topological g cs)
    (hcycle : ∀ c ∈ cs, g.isCycle c = false) :
    ∀ c ∈ cs, ∀ v ∈ c, Acc (fun w v => w ∈ g.succ v) v := by
  induction h with
  | nil => simp
  | @snoc cs c _ hsucc ih =>
    have hold := ih fun d hd => hcycle d (List.mem_append_left _ hd)
    intro d hd v hv
    rcases List.mem_append.mp hd with hd | hd
    · exact hold d hd v hv
    · rw [List.mem_singleton.mp hd] at hv
      refine ⟨v, fun w hw => ?_⟩
      rcases hsucc v hv w hw with hw' | ⟨d, hd, hw'⟩
      · -- Both ends are in one component that is no cycle, so it would be a loop.
        have hno := hcycle c (List.mem_append_right _ List.mem_cons_self)
        match c, hv, hw', hno with
        | [u], hv, hw', hno =>
          rw [List.mem_singleton] at hv hw'
          subst hv hw'
          simp [isCycle, hw] at hno
      · exact hold d hd w hw'

/-! ### What every step keeps -/

section keeps

variable {P : Search α → Prop}

theorem follow_keeps {explore : Explorer α}
    (hexplore : ∀ v s, v ∈ g.nodes → P s → P (explore v s).2) {ws : List α} (low : Nat)
    {s : Search α} (hnodes : ∀ w ∈ ws, w ∈ g.nodes) (h : P s) : P (follow explore ws low s).2 := by
  induction ws generalizing low s with
  | nil => exact h
  | cons w ws ih =>
    obtain ⟨hw, hrest⟩ := List.forall_mem_cons.mp hnodes
    rw [follow]
    split
    · exact ih _ hrest h
    · exact ih _ hrest (hexplore w s hw h)

theorem connect_keeps (hclosed : g.Closed)
    (hdiscover : ∀ v s, v ∈ g.nodes → P s → P (s.discover v))
    (hclose : ∀ v s, v ∈ g.nodes → P s → P (s.close v)) (depth : Nat) :
    ∀ v s, v ∈ g.nodes → P s → P (connect g depth v s).2 := by
  induction depth with
  | zero => exact fun _ _ _ h => h
  | succ depth ih =>
    intro v s hv h
    have hfollow := follow_keeps ih s.discovered.length (hclosed v hv) (hdiscover v s hv h)
    simp only [connect]
    split
    · exact hclose v _ hv hfollow
    · exact hfollow

theorem searchAll_keeps (hclosed : g.Closed)
    (hdiscover : ∀ v s, v ∈ g.nodes → P s → P (s.discover v))
    (hclose : ∀ v s, v ∈ g.nodes → P s → P (s.close v)) {vs : List α} {s : Search α}
    (hnodes : ∀ v ∈ vs, v ∈ g.nodes) (h : P s) : P (searchAll g vs s) := by
  induction vs generalizing s with
  | nil => exact h
  | cons v vs ih =>
    obtain ⟨hv, hrest⟩ := List.forall_mem_cons.mp hnodes
    rw [searchAll]
    split
    · exact ih hrest h
    · exact ih hrest (connect_keeps hclosed hdiscover hclose _ v s hv h)

end keeps

/-! ### Where components lie -/

/-- What a search has open or closed is made of nodes. -/
structure Search.Within (g : Graph α) (s : Search α) : Prop where
  stack : ∀ v ∈ s.stack, v ∈ g.nodes
  components : ∀ c ∈ s.components, ∀ v ∈ c, v ∈ g.nodes

theorem Search.Within.close {s : Search α} (h : s.Within g) {v : α} (hv : v ∈ g.nodes) :
    (s.close v).Within g where
  stack w hw := h.stack w ((List.dropWhile_sublist _).subset (List.mem_of_mem_drop hw))
  components c hc w hw := by
    rcases List.mem_append.mp hc with hc | hc
    · exact h.components c hc w hw
    · rw [List.mem_singleton.mp hc] at hw
      rcases List.mem_append.mp hw with hw | hw
      · exact h.stack w ((List.takeWhile_sublist _).subset hw)
      · rw [List.mem_singleton.mp hw]
        exact hv

theorem component_within (hclosed : g.Closed) {c : List α} (hc : c ∈ g.components) {v : α}
    (hv : v ∈ c) : v ∈ g.nodes := by
  have hwithin : (searchAll g g.nodes {}).Within g := by
    apply searchAll_keeps (P := Search.Within g) hclosed
    · exact fun v s hv h => ⟨List.forall_mem_cons.mpr ⟨hv, h.stack⟩, h.components⟩
    · exact fun v s hv h => h.close hv
    · exact fun _ hv => hv
    · exact ⟨by simp, by simp⟩
  exact hwithin.components c hc v hv

theorem component_ne_nil (hclosed : g.Closed) {c : List α} (hc : c ∈ g.components) : c ≠ [] := by
  have hall : ∀ c ∈ (searchAll g g.nodes {}).components, c ≠ [] := by
    apply searchAll_keeps (P := fun s => ∀ c ∈ s.components, c ≠ []) hclosed
    · exact fun _ _ _ h => h
    · intro v s _ h c hc
      rcases List.mem_append.mp hc with hc | hc
      · exact h c hc
      · rw [List.mem_singleton.mp hc]
        simp
    · exact fun _ hv => hv
    · simp
  exact hall c hc

/-! ### The lowest cycle -/

section lowest

variable {g : Graph Nat}

theorem lowest_eq_none {cs : List (List Nat)} (h : lowest cs = none) : cs = [] := by
  cases cs with
  | nil => rfl
  | cons c cs => cases h

/-- In a graph without cyclic components no path from a node is infinite. -/
theorem acc_of_lowestCycle_eq_none (hclosed : g.Closed) (h : g.lowestCycle = none) {v : Nat}
    (hv : v ∈ g.nodes) : Acc (fun w v => w ∈ g.succ v) v := by
  obtain ⟨c, hc, hv⟩ := mem_components hclosed hv
  refine (components_topological hclosed).acc (fun d hd => ?_) c hc v hv
  have hnil := List.map_eq_nil_iff.mp (lowest_eq_none h)
  exact Bool.eq_false_iff.mpr (List.filter_eq_nil_iff.mp hnil d hd)

theorem lowest_mem {cs : List (List Nat)} {c : List Nat} (h : lowest cs = some c) : c ∈ cs := by
  cases cs with
  | nil => cases h
  | cons d ds =>
    cases h
    induction ds generalizing d with
    | nil => exact List.mem_singleton.mpr rfl
    | cons e ds ih =>
      rw [List.foldl_cons]
      have hlower : lower d e = d ∨ lower d e = e := by
        unfold lower
        split
        · exact .inl rfl
        · exact .inr rfl
      have hmem := ih (lower d e)
      rcases hlower with heq | heq <;> rw [heq] at hmem ⊢
      · exact (List.sublist_cons_self e ds).cons_cons d |>.subset hmem
      · exact List.mem_cons_of_mem d hmem

theorem lowestCycle_within (hclosed : g.Closed) {c : List Nat} (h : g.lowestCycle = some c) :
    c ≠ [] ∧ ∀ v ∈ c, v ∈ g.nodes := by
  obtain ⟨d, hd, rfl⟩ := List.mem_map.mp (lowest_mem h)
  have hd := (List.mem_filter.mp hd).1
  constructor
  · obtain ⟨v, vs, rfl⟩ := List.exists_cons_of_ne_nil (component_ne_nil hclosed hd)
    exact List.ne_nil_of_mem ((Ascending.mem_ofList v _).mpr List.mem_cons_self)
  · intro v hv
    exact component_within hclosed hd ((Ascending.mem_ofList v d).mp hv)

end lowest

end SierraCasm.Graph
